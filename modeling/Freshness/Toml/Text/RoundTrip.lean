import Freshness.Toml.Text.Reader
import Freshness.Toml.Text.Writer

/-!
# TOML texts written and read back

* `readBasic_writeBasic`, `readLiteral_append`, `readLongBasic_writeLongBasic`,
  `readLongLiteral_append` : each form reads back what was written in it;
* `readText?_writeText` : so does the form that a text is written in, whatever the text, if the
  character after it does not extend it.
-/

namespace Freshness.Toml

attribute [local simp] readBasic readLongBasic readLiteral readLongLiteral

/-! ## Characters -/

theorem isPlain_of_isCode_eq_false {c : Char} (h : isCode c = false) (hn : c ≠ '\n') :
    isPlain c = true := by
  simp only [isCode, isPlain, Bool.or_eq_false_iff, Bool.and_eq_false_iff] at *
  by_cases ht : c = '\t'
  · simp [ht]
  · simp_all

theorem toNat_lt_of_isCode {c : Char} (h : isCode c = true) : c.toNat < 128 := by
  simp only [isCode, Bool.or_eq_true, Bool.and_eq_true, decide_eq_true_eq, beq_iff_eq] at h
  omega

theorem ofHex?_hexChar {c : Char} (h : c.toNat < 128) :
    ofHex? ['0', '0', hexChar (c.toNat / 16), hexChar (c.toNat % 16)] = some c := by
  have all : ∀ n < 128, ofHex? ['0', '0', hexChar (n / 16), hexChar (n % 16)] =
      some (Char.ofNat n) := by decide +kernel
  rw [all _ h, Char.ofNat_toNat]

/-- How a character is written between quotes: by a letter, by a number, or as it stands. -/
theorem writeChar_cases (c : Char) :
    (∃ e, writeChar c = ['\\', e] ∧ ofLetter? e = some c) ∨
      (isCode c = true ∧
        writeChar c = ['\\', 'u', '0', '0', hexChar (c.toNat / 16), hexChar (c.toNat % 16)]) ∨
      (writeChar c = [c] ∧ isPlain c = true ∧ c ≠ '\\' ∧ c ≠ '"') := by
  simp only [writeChar]
  split
  · exact .inl ⟨_, rfl, by subst_vars; rfl⟩
  split
  · exact .inl ⟨_, rfl, by subst_vars; rfl⟩
  split
  · exact .inl ⟨_, rfl, by subst_vars; rfl⟩
  split
  · exact .inl ⟨_, rfl, by subst_vars; rfl⟩
  split
  · exact .inl ⟨_, rfl, by subst_vars; rfl⟩
  split
  · exact .inl ⟨_, rfl, by subst_vars; rfl⟩
  split
  · exact .inl ⟨_, rfl, by subst_vars; rfl⟩
  split
  · exact .inr (.inl ⟨by assumption, rfl⟩)
  · exact .inr (.inr ⟨rfl, isPlain_of_isCode_eq_false (by simp_all) (by assumption),
      by assumption, by assumption⟩)

/-! ## Between quotes -/

theorem readBasic_cons {c : Char} (rest : List Char) (h : isPlain c = true) (hs : c ≠ '\\')
    (hq : c ≠ '"') : readBasic (c :: rest) = andChar c (readBasic rest) := by
  rw [readBasic.eq_def]
  split <;> simp_all

theorem readBasic_letter {e c : Char} (rest : List Char) (h : ofLetter? e = some c) :
    readBasic ('\\' :: e :: rest) = andChar c (readBasic rest) := by
  have hu : e ≠ 'u' ∧ e ≠ 'U' := by constructor <;> rintro rfl <;> simp [ofLetter?] at h
  rw [readBasic] <;> simp_all

theorem readBasic_writeChar (c : Char) (rest : List Char) :
    readBasic (writeChar c ++ rest) = andChar c (readBasic rest) := by
  obtain ⟨e, hw, he⟩ | ⟨hc, hw⟩ | ⟨hw, hp, hs, hq⟩ := writeChar_cases c
  · simp [hw, readBasic_letter rest he]
  · simp [hw, ofHex?_hexChar (toNat_lt_of_isCode hc)]
  · simp [hw, readBasic_cons rest hp hs hq]

theorem readBasic_writeBasic (cs rest : List Char) :
    readBasic (writeBasic cs ++ '"' :: rest) = some (cs, rest) := by
  induction cs with
  | nil => simp [writeBasic]
  | cons c cs ih =>
    rw [show writeBasic (c :: cs) = writeChar c ++ writeBasic cs by simp [writeBasic],
      List.append_assoc, readBasic_writeChar, ih, andChar_some]

/-! ## Between threefold quotes -/

theorem readLongBasic_cons {c : Char} (rest : List Char) (h : isPlain c = true) (hs : c ≠ '\\')
    (hq : c ≠ '"') : readLongBasic false (c :: rest) = andChar c (readLongBasic false rest) := by
  rw [readLongBasic.eq_def]
  split <;> simp_all [isPlain]

theorem readLongBasic_letter {e c : Char} (rest : List Char) (h : ofLetter? e = some c) :
    readLongBasic false ('\\' :: e :: rest) = andChar c (readLongBasic false rest) := by
  have hu : e ≠ 'u' ∧ e ≠ 'U' := by constructor <;> rintro rfl <;> simp [ofLetter?] at h
  rw [readLongBasic] <;> simp_all

theorem readLongBasic_writeChar (c : Char) (rest : List Char) :
    readLongBasic false (writeChar c ++ rest) = andChar c (readLongBasic false rest) := by
  obtain ⟨e, hw, he⟩ | ⟨hc, hw⟩ | ⟨hw, hp, hs, hq⟩ := writeChar_cases c
  · simp [hw, readLongBasic_letter rest he]
  · simp [hw, ofHex?_hexChar (toNat_lt_of_isCode hc)]
  · simp [hw, readLongBasic_cons rest hp hs hq]

/-- A quote that does not open a row of three stands for itself. -/
theorem readLongBasic_quote {rest : List Char} (h : ∀ t, rest ≠ '"' :: '"' :: t) :
    readLongBasic false ('"' :: rest) = andChar '"' (readLongBasic false rest) := by
  rw [readLongBasic] <;> simp_all [isPlain]

/-- After less than two quotes in a row one more is written as it stands. -/
theorem writeLongBasic_quote {quotes : Nat} (cs : List Char) (h : quotes < 2) :
    writeLongBasic quotes ('"' :: cs) = '"' :: writeLongBasic (quotes + 1) cs := by
  simp [writeLongBasic, h]

theorem writeLongBasic_two_quote (cs : List Char) :
    writeLongBasic 2 ('"' :: cs) = '\\' :: '"' :: writeLongBasic 0 cs := by
  simp [writeLongBasic, writeChar]

/-- After any other character the count of quotes starts again. -/
theorem writeLongBasic_other {c : Char} (quotes : Nat) (cs : List Char) (h : c ≠ '"') :
    writeLongBasic quotes (c :: cs) =
      (if c = '\n' then ['\n'] else writeChar c) ++ writeLongBasic 0 cs := by
  by_cases hn : c = '\n' <;> simp [writeLongBasic, h, hn]

theorem readLongBasic_other (c : Char) (rest : List Char) :
    readLongBasic false ((if c = '\n' then ['\n'] else writeChar c) ++ rest) =
      andChar c (readLongBasic false rest) := by
  split
  · next h => simp [h]
  · exact readLongBasic_writeChar c rest

/-- What is written does not start with a quote after two of them, or for another character. -/
theorem writeLongBasic_ne {c : Char} {quotes : Nat} (cs t rest : List Char)
    (h : c ≠ '"' ∨ quotes = 2) : writeLongBasic quotes (c :: cs) ++ rest ≠ '"' :: t := by
  by_cases hq : c = '"'
  · obtain rfl := h.resolve_left (not_not_intro hq)
    simp [hq, writeLongBasic_two_quote]
  · rw [writeLongBasic_other quotes cs hq]
    obtain ⟨e, hw, -⟩ | ⟨-, hw⟩ | ⟨hw, -⟩ := writeChar_cases c <;> split <;> simp [hw, hq]

/-- Up to two quotes right before the closing ones belong to the text. -/
theorem readLongBasic_closing {rest : List Char} (h : ∀ t, rest ≠ '"' :: t) {n : Nat}
    (hn : n ≤ 2) : readLongBasic false (List.replicate (n + 3) '"' ++ rest) =
      some (List.replicate n '"', rest) := by
  obtain rfl | rfl | rfl : n = 0 ∨ n = 1 ∨ n = 2 := by omega
  all_goals
    simp only [List.replicate, List.cons_append, List.nil_append]
    rw [readLongBasic] <;> simp_all

theorem readLongBasic_writeLongBasic {rest : List Char} (h : ∀ t, rest ≠ '"' :: t) :
    ∀ (cs : List Char) (quotes : Nat), quotes ≤ 2 →
      readLongBasic false (writeLongBasic quotes cs ++ '"' :: '"' :: '"' :: rest) =
        some (cs, rest)
  | [], _, _ => readLongBasic_closing h (Nat.zero_le 2)
  | c :: cs, quotes, hle => by
    by_cases hq : c = '"'
    · subst hq
      by_cases hlt : quotes < 2
      · have ih := readLongBasic_writeLongBasic h cs (quotes + 1) hlt
        rw [writeLongBasic_quote cs hlt, List.cons_append]
        match cs with
        | [] => exact readLongBasic_closing h (show 1 ≤ 2 by omega)
        | d :: ds =>
          by_cases hd : d = '"' ∧ quotes = 0 ∧ ds = []
          · obtain ⟨rfl, rfl, rfl⟩ := hd
            exact readLongBasic_closing h (show 2 ≤ 2 by omega)
          · rw [readLongBasic_quote, ih, andChar_some]
            intro t e
            by_cases hn : d ≠ '"' ∨ quotes + 1 = 2
            · exact writeLongBasic_ne ds _ _ hn e
            · obtain ⟨rfl, rfl⟩ : d = '"' ∧ quotes = 0 := by
                constructor
                · exact Classical.byContradiction fun h => hn (.inl h)
                · omega
              match ds with
              | [] => simp at hd
              | x :: xs =>
                rw [writeLongBasic_quote _ (by omega), List.cons_append] at e
                exact writeLongBasic_ne xs _ _ (.inr rfl) (List.cons.inj e).2
      · obtain rfl : quotes = 2 := by omega
        rw [writeLongBasic_two_quote]
        simp only [List.cons_append]
        rw [readLongBasic_letter _ rfl, readLongBasic_writeLongBasic h cs 0 (by omega),
          andChar_some]
    · rw [writeLongBasic_other quotes cs hq, List.append_assoc, readLongBasic_other,
        readLongBasic_writeLongBasic h cs 0 (by omega), andChar_some]

/-! ## Between apostrophes -/

theorem readLiteral_append {cs : List Char} (rest : List Char)
    (h : ∀ c ∈ cs, isPlain c = true ∧ c ≠ '\'') :
    readLiteral (cs ++ '\'' :: rest) = some (cs, rest) := by
  induction cs with
  | nil => simp
  | cons c cs ih =>
    have hc := h c List.mem_cons_self
    rw [List.cons_append, readLiteral, if_pos hc.1, ih fun d hd => h d (List.mem_cons_of_mem _ hd),
      andChar_some]
    simp [hc.2]

/-! ## Between threefold apostrophes -/

/-- An apostrophe that does not open a row of three stands for itself. -/
theorem readLongLiteral_apostrophe {rest : List Char} (h : ∀ t, rest ≠ '\'' :: '\'' :: t) :
    readLongLiteral ('\'' :: rest) = andChar '\'' (readLongLiteral rest) := by
  rw [readLongLiteral] <;> simp_all [isPlain]

theorem readLongLiteral_other {c : Char} (rest : List Char) (h : isCode c = false)
    (hq : c ≠ '\'') : readLongLiteral (c :: rest) = andChar c (readLongLiteral rest) := by
  by_cases hn : c = '\n'
  · subst hn; rw [readLongLiteral]
  · have hp := isPlain_of_isCode_eq_false h hn
    rw [readLongLiteral] <;> simp_all
    rintro _ rfl
    simp [isPlain] at hp

/-- Up to two apostrophes right before the closing ones belong to the text. -/
theorem readLongLiteral_closing {rest : List Char} (h : ∀ t, rest ≠ '\'' :: t) {n : Nat}
    (hn : n ≤ 2) : readLongLiteral (List.replicate (n + 3) '\'' ++ rest) =
      some (List.replicate n '\'', rest) := by
  obtain rfl | rfl | rfl : n = 0 ∨ n = 1 ∨ n = 2 := by omega
  all_goals
    simp only [List.replicate, List.cons_append, List.nil_append]
    rw [readLongLiteral] <;> simp_all

theorem readLongLiteral_append {rest : List Char} (h : ∀ t, rest ≠ '\'' :: t) :
    ∀ {cs : List Char}, (∀ c ∈ cs, isCode c = false) → hasThree '\'' cs = false →
      readLongLiteral (cs ++ '\'' :: '\'' :: '\'' :: rest) = some (cs, rest)
  | [], _, _ => readLongLiteral_closing h (Nat.zero_le 2)
  | c :: cs, hcs, ht => by
    have hcs' : ∀ d ∈ cs, isCode d = false := fun d hd => hcs d (List.mem_cons_of_mem _ hd)
    have ht' : hasThree '\'' cs = false := by
      match cs with
      | [] | [_] | _ :: _ :: _ => simp_all [hasThree]
    have ih := readLongLiteral_append h hcs' ht'
    by_cases hq : c = '\''
    · subst hq
      match cs with
      | [] => exact readLongLiteral_closing h (show 1 ≤ 2 by omega)
      | [d] =>
        by_cases hd : d = '\''
        · subst hd; exact readLongLiteral_closing h (show 2 ≤ 2 by omega)
        · rw [List.cons_append, readLongLiteral_apostrophe, ih, andChar_some]
          intro t e
          exact hd (List.cons.inj e).1
      | d :: x :: xs =>
        rw [List.cons_append, readLongLiteral_apostrophe, ih, andChar_some]
        intro t e
        simp only [List.cons_append, List.cons.injEq] at e
        simp [hasThree, e.1, e.2.1] at ht
    · rw [List.cons_append, readLongLiteral_other _ (hcs c List.mem_cons_self) hq, ih, andChar_some]

/-! ## The plainest form -/

theorem skipBreak_of_ne {cs : List Char} (h : ∀ t, cs ≠ '\n' :: t)
    (hr : ∀ t, cs ≠ '\r' :: '\n' :: t) : skipBreak cs = cs := by
  rw [skipBreak, dropBreak?.eq_def]
  split <;> simp_all

/-- The break that opens a text of several lines is left out again. -/
theorem skipBreak_openingBreak {cs ds : List Char} (h : '\n' ∉ cs → skipBreak ds = ds) :
    skipBreak (openingBreak cs ++ ds) = ds := by
  by_cases hn : '\n' ∈ cs
  · simp [openingBreak, hn, skipBreak, dropBreak?]
  · simp [openingBreak, hn, h hn]

theorem writeBasic_ne (cs : List Char) {t rest : List Char} (h : ∀ t, rest ≠ '"' :: t) :
    writeBasic cs ++ '"' :: rest ≠ '"' :: '"' :: t := by
  match cs with
  | [] => simpa [writeBasic] using h t
  | c :: cs =>
    obtain ⟨e, hw, -⟩ | ⟨-, hw⟩ | ⟨hw, -, -, hq⟩ := writeChar_cases c <;> simp [writeBasic, hw]
    exact fun e => absurd e hq

theorem readText?_basic (cs : List Char) {rest : List Char} (h : ∀ t, rest ≠ '"' :: t) :
    readText? (writeAs cs .basic ++ rest) = some (cs, rest) := by
  have hne := fun t => writeBasic_ne cs (t := t) h
  simp only [writeAs, List.append_assoc, List.cons_append, List.nil_append]
  rw [readText?, readBasic_writeBasic]
  exact hne

theorem readText?_literal {cs rest : List Char} (h : ∀ t, rest ≠ '\'' :: t)
    (hcs : ∀ c ∈ cs, isPlain c = true ∧ c ≠ '\'') :
    readText? (writeAs cs .literal ++ rest) = some (cs, rest) := by
  simp only [writeAs, List.append_assoc, List.cons_append, List.nil_append]
  rw [readText?, readLiteral_append rest hcs]
  intro t e
  match cs with
  | [] => exact h t (List.cons.inj e).2
  | c :: cs => exact (hcs c List.mem_cons_self).2 (List.cons.inj e).1

/-- What is written between threefold quotes starts with a line break only if the text does. -/
theorem skipBreak_writeLongBasic (cs rest : List Char) (h : '\n' ∉ cs) :
    skipBreak (writeLongBasic 0 cs ++ '"' :: rest) = writeLongBasic 0 cs ++ '"' :: rest := by
  match cs with
  | [] => exact skipBreak_of_ne (by simp [writeLongBasic]) (by simp [writeLongBasic])
  | c :: cs =>
    by_cases hq : c = '"'
    · subst hq
      rw [writeLongBasic_quote cs (by omega)]
      exact skipBreak_of_ne (by simp) (by simp)
    · have hn : c ≠ '\n' := fun e => h (e ▸ List.mem_cons_self)
      rw [writeLongBasic_other 0 cs hq, if_neg hn]
      obtain ⟨e, hw, -⟩ | ⟨-, hw⟩ | ⟨hw, hp, -⟩ := writeChar_cases c
      · exact skipBreak_of_ne (by simp [hw]) (by simp [hw])
      · exact skipBreak_of_ne (by simp [hw]) (by simp [hw])
      · have hr : c ≠ '\r' := by rintro rfl; simp [isPlain] at hp
        exact skipBreak_of_ne (by simp [hw, hn]) (by simp [hw, hr])

theorem readText?_longBasic (cs : List Char) {rest : List Char} (h : ∀ t, rest ≠ '"' :: t) :
    readText? (writeAs cs .longBasic ++ rest) = some (cs, rest) := by
  simp only [writeAs, List.append_assoc, List.cons_append, List.nil_append]
  rw [readText?, skipBreak_openingBreak (skipBreak_writeLongBasic cs _),
    readLongBasic_writeLongBasic h cs 0 (by omega)]

theorem readText?_longLiteral {cs rest : List Char} (h : ∀ t, rest ≠ '\'' :: t)
    (hcs : ∀ c ∈ cs, isCode c = false) (ht : hasThree '\'' cs = false) :
    readText? (writeAs cs .longLiteral ++ rest) = some (cs, rest) := by
  simp only [writeAs, List.append_assoc, List.cons_append, List.nil_append]
  rw [readText?, skipBreak_openingBreak, readLongLiteral_append h hcs ht]
  intro hn
  match cs with
  | [] => exact skipBreak_of_ne (by simp) (by simp)
  | c :: cs =>
    have hc := hcs c List.mem_cons_self
    refine skipBreak_of_ne ?_ ?_
    · rintro t e; exact hn ((List.cons.inj e).1 ▸ List.mem_cons_self)
    · rintro t e; obtain rfl := (List.cons.inj e).1; simp [isCode] at hc

theorem readText?_writeText (cs : List Char) {rest : List Char} (h : ∀ t, rest ≠ '"' :: t)
    (h' : ∀ t, rest ≠ '\'' :: t) : readText? (writeText cs ++ rest) = some (cs, rest) := by
  simp only [writeText, formOf]
  split
  · exact readText?_basic cs h
  split
  · next hf =>
    simp only [Bool.and_eq_true, Bool.not_eq_true', List.any_eq_false, List.contains_eq_mem,
      decide_eq_false_iff_not] at hf
    refine readText?_literal h' fun c hc => ⟨?_, fun e => hf.2 (e ▸ hc)⟩
    exact isPlain_of_isCode_eq_false (by simpa using hf.1.1 c hc) fun e => hf.1.2 (e ▸ hc)
  split
  · exact readText?_longBasic cs h
  split
  · next hf =>
    simp only [Bool.and_eq_true, Bool.not_eq_true', List.any_eq_false] at hf
    exact readText?_longLiteral h' (fun c hc => by simpa using hf.1 c hc) hf.2
  split
  · exact readText?_longBasic cs h
  · exact readText?_basic cs h

end Freshness.Toml
