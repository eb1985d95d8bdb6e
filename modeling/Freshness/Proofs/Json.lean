import Freshness.Json.Reader
import Freshness.Json.Writer

/-!
# JSON values read back from their text

* `readString_escapeChar` : a text is read back from between its quotes, whatever its characters;
* `Ends` : what comes after a value; `readNumber_toString` : up to there an integer is read back;
* `IsPlain` : values of which each part is kept exactly;
* `Reads` : a value is read back wherever it stands; `readItems_prettyItems`,
  `readMembers_prettyMembers` : so is what is made of such values; `IsPlain.reads` : every plain
  value;
* `parse?_pretty` : **a plain value is read back from its text**.
-/

namespace Freshness.Json

/-! ## Texts -/

/-- How a character is written: by a letter, by its number, or as it stands. -/
theorem escapeChar_cases (c : Char) :
    (∃ e, escapeChar c = ['\\', e] ∧ letterEscape? e = some c) ∨
      (c.toNat < 0x20 ∧ escapeChar c = ['\\', 'u', '0', '0', Nat.digitChar (c.toNat / 16),
        Nat.digitChar (c.toNat % 16)]) ∨
      (escapeChar c = [c] ∧ ¬ c.toNat < 0x20 ∧ c ≠ '\\' ∧ c ≠ '"') := by
  simp only [escapeChar]
  -- seven characters are written by a letter
  iterate 7
    split
    · exact .inl ⟨_, rfl, by subst_vars; rfl⟩
  split
  · exact .inr (.inl ⟨by assumption, rfl⟩)
  · exact .inr (.inr ⟨rfl, by assumption, by assumption, by assumption⟩)

theorem ofUnit_digits {c : Char} (h : c.toNat < 0x20) :
    (Text.ofDigits? 16 ['0', '0', Nat.digitChar (c.toNat / 16), Nat.digitChar (c.toNat % 16)]).map
      ofUnit = some (.inl c) := by
  have all : ∀ n < 0x20,
      (Text.ofDigits? 16 ['0', '0', Nat.digitChar (n / 16), Nat.digitChar (n % 16)]).map ofUnit =
        some (.inl (Char.ofNat n)) := by decide +kernel
  rw [all _ h, Char.ofNat_toNat]

theorem readText_escapeChar (c : Char) (rest : List Char) :
    readText (escapeChar c ++ rest) = (readText rest).map fun p => (.inl c :: p.1, p.2) := by
  obtain ⟨e, hw, he⟩ | ⟨hc, hw⟩ | ⟨hw, hc, hs, hq⟩ := escapeChar_cases c
  · have hu : e ≠ 'u' := by
      rintro rfl
      cases he
    rw [hw]
    show readText ('\\' :: e :: rest) = _
    rw [readText]
    · rw [he]
      cases readText rest <;> rfl
    · simp [hu]
  · obtain ⟨n, hn, hu⟩ := Option.map_eq_some_iff.1 (ofUnit_digits hc)
    rw [hw]
    show readText ('\\' :: 'u' :: '0' :: '0' :: _ :: _ :: rest) = _
    rw [readText, hn]
    show (readText rest).bind _ = _
    rw [hu]
    cases readText rest <;> rfl
  · rw [hw]
    show readText (c :: rest) = _
    rw [readText]
    · rw [if_neg (by simp [hc, hs])]
      cases readText rest <;> rfl
    all_goals simp [hs, hq]

theorem readText_flatMap (cs rest : List Char) :
    readText (cs.flatMap escapeChar ++ '"' :: rest) = some (cs.map .inl, rest) := by
  induction cs with
  | nil => rfl
  | cons c cs ih =>
    rw [List.flatMap_cons, List.append_assoc, readText_escapeChar, ih]
    rfl

theorem joinHalves_map_inl (cs : List Char) : joinHalves (cs.map .inl) = some cs := by
  induction cs with
  | nil => rfl
  | cons c cs ih =>
    rw [List.map_cons, joinHalves, ih]
    rfl

/-- A text is read back from between its quotes. -/
theorem readString_escapeChar (s : String) (rest : List Char) :
    readString (s.toList.flatMap escapeChar ++ '"' :: rest) = some (some s, rest) := by
  rw [readString, readText_flatMap]
  show some ((joinHalves (s.toList.map .inl)).map String.ofList, rest) = _
  rw [joinHalves_map_inl, Option.map_some, String.ofList_toList]

theorem toList_escaped (s : String) (rest : List Char) :
    (escaped s).toList ++ rest = '"' :: (s.toList.flatMap escapeChar ++ '"' :: rest) := by
  simp [escaped]

/-! ## Numbers -/

/-- What comes after a value in a text over several lines. -/
inductive Ends : List Char → Prop where
  | nil : Ends []
  | comma (rest : List Char) : Ends (',' :: rest)
  | line (rest : List Char) : Ends ('\n' :: rest)

theorem spanDigits_toDigits (n : Nat) {rest : List Char} (h : Ends rest) :
    spanDigits (Nat.toDigits 10 n ++ rest) = (Nat.toDigits 10 n, rest) := by
  have hd : ∀ d ∈ Nat.toDigits 10 n, d.isDigit = true := fun _ =>
    Nat.isDigit_of_mem_toDigits (by decide) (by decide)
  rw [spanDigits, List.takeWhile_append_of_pos hd, List.dropWhile_append_of_pos hd]
  cases h <;> simp

theorem readUnsigned_toDigits (negative : Bool) {n : Nat} (hn : negative = true → n ≠ 0)
    {rest : List Char} (h : Ends rest) : readUnsigned negative (Nat.toDigits 10 n ++ rest) =
      some (.int (if negative then -n else n), rest) := by
  obtain ⟨c, ds, hd, -, -, hz⟩ := Text.toDigits_eq_cons n
  have hlead : ¬ ((c :: ds).head? = some '0' ∧ (c :: ds).length ≠ 1) := by
    rintro ⟨hc, hl⟩
    exact hl (by rw [hz (Option.some.inj hc)]; rfl)
  have hm : Nat.ofDigitChars 10 (c :: ds) 0 = n :=
    hd ▸ Nat.ofDigitChars_toDigits (by decide) (by decide)
  have hs : (negative && n == 0) = false := by
    cases negative with
    | false => rfl
    | true => simpa using hn rfl
  rw [readUnsigned, spanDigits_toDigits n h, hd]
  show (if (c :: ds).head? = some '0' ∧ (c :: ds).length ≠ 1 then none else _) = _
  rw [if_neg hlead]
  cases h <;> simp [readFraction, readExponent, hm, hs]

/-- The first character of an integer is no other mark of JSON, and up to the end of the value it is
read back. -/
theorem readNumber_toString (n : Int) {rest : List Char} (h : Ends rest) :
    ∃ c cs, (toString n).toList = c :: cs ∧ (c = '-' ∨ c.isDigit = true) ∧
      readNumber (c :: cs ++ rest) = some (.int n, rest) := by
  cases n with
  | ofNat m =>
    obtain ⟨c, ds, hd, hc, -⟩ := Text.toDigits_eq_cons m
    refine ⟨c, ds, ?_, .inr hc, ?_⟩
    · show (Nat.repr m).toList = _
      rw [Nat.repr, String.toList_ofList, hd]
    · have hr := readUnsigned_toDigits false (n := m) (by simp) h
      rw [hd, List.cons_append] at hr
      rw [List.cons_append, readNumber]
      · exact hr
      · rintro t ht
        obtain ⟨rfl, -⟩ := List.cons.inj ht
        cases hc
  | negSucc m =>
    refine ⟨'-', Nat.toDigits 10 (m + 1), ?_, .inl rfl, ?_⟩
    · show ("-" ++ Nat.repr (m + 1)).toList = _
      simp [Nat.repr]
    · exact readUnsigned_toDigits true (by simp) h

/-! ## Blanks -/

theorem skipSpace_cons {c : Char} (h : isSpace c = false) (cs : List Char) :
    skipSpace (c :: cs) = c :: cs := by
  rw [skipSpace, List.dropWhile_cons_of_neg (by rw [h]; exact Bool.false_ne_true)]

theorem skipSpace_escapedName (name : Option String) (cs : List Char) :
    skipSpace ((escapedName name).toList ++ cs) = (escapedName name).toList ++ cs := by
  rw [escapedName, toList_escaped, skipSpace_cons rfl]

theorem skipSpace_indent (level : Nat) (cs : List Char) :
    skipSpace ((indent level).toList ++ cs) = skipSpace cs := by
  rw [skipSpace, indent, String.toList_ofList]
  refine List.dropWhile_append_of_pos fun c hc => ?_
  rcases List.mem_cons.1 hc with rfl | hc
  · rfl
  · rw [List.eq_of_mem_replicate hc]
    rfl

theorem ends_indent (level : Nat) (cs : List Char) : Ends ((indent level).toList ++ cs) := by
  rw [indent, String.toList_ofList]
  exact .line _

/-! ## Values -/

attribute [local simp] prettyAt prettyItems prettyMembers

/-- A value of which each part is kept exactly: its numbers are integers, and its texts and names
stand for characters. -/
inductive IsPlain : Json → Prop where
  | null : IsPlain null
  | bool (b : Bool) : IsPlain (bool b)
  | int (n : Int) : IsPlain (int n)
  | str (s : String) : IsPlain (str s)
  | arr {items : List Json} : (∀ j ∈ items, IsPlain j) → IsPlain (arr items)
  | obj {members : List (Option String × Json)} : (∀ m ∈ members, m.1.isSome = true) →
    (∀ m ∈ members, IsPlain m.2) → IsPlain (obj members)

/-- The value is read back wherever it stands. A text needs no more fuel than it has characters. -/
def Reads (j : Json) : Prop :=
  ∀ (level fuel : Nat) (rest : List Char), (prettyAt level j).toList.length ≤ fuel → Ends rest →
    readValue fuel ((prettyAt level j).toList ++ rest) = some (j, rest)

theorem toList_arr (level : Nat) (j : Json) (items : List Json) (rest : List Char) :
    (prettyAt level (arr (j :: items))).toList ++ rest =
      '[' :: ((indent (level + 1)).toList ++ ((prettyAt (level + 1) j).toList ++
        ((prettyItems (level + 1) items).toList ++ ((indent level).toList ++ ']' :: rest)))) := by
  simp

theorem toList_obj (level : Nat) (name : Option String) (j : Json)
    (members : List (Option String × Json)) (rest : List Char) :
    (prettyAt level (obj ((name, j) :: members))).toList ++ rest =
      '\x7b' :: ((indent (level + 1)).toList ++ ((escapedName name).toList ++
        ':' :: ' ' :: ((prettyAt (level + 1) j).toList ++
          ((prettyMembers (level + 1) members).toList ++
            ((indent level).toList ++ '\x7d' :: rest))))) := by
  simp

/-- A value starts with a character that is not blank and does not close a list. -/
theorem IsPlain.toList_prettyAt {j : Json} (h : IsPlain j) (level : Nat) :
    ∃ c cs, (prettyAt level j).toList = c :: cs ∧ isSpace c = false ∧ c ≠ ']' := by
  cases h with
  | null => exact ⟨'n', ['u', 'l', 'l'], by simp [scalar], rfl, by decide⟩
  | bool b =>
    cases b with
    | false => exact ⟨'f', ['a', 'l', 's', 'e'], by simp [scalar], rfl, by decide⟩
    | true => exact ⟨'t', ['r', 'u', 'e'], by simp [scalar], rfl, by decide⟩
  | int n =>
    obtain ⟨c, cs, hn, hc, -⟩ := readNumber_toString n .nil
    refine ⟨c, cs, hn, ?_, ?_⟩
    · simp only [isSpace, Bool.or_eq_false_iff, beq_eq_false_iff_ne]
      refine ⟨⟨⟨?_, ?_⟩, ?_⟩, ?_⟩ <;> rintro rfl <;> simp at hc
    · rintro rfl
      simp at hc
  | str s => exact ⟨'"', _, String.toList_ofList, rfl, by decide⟩
  | @arr items _ =>
    cases items with
    | nil => exact ⟨'[', [']'], by simp, rfl, by decide⟩
    | cons j items =>
      exact ⟨'[', _, (List.append_nil _).symm.trans (toList_arr level j items []), rfl, by decide⟩
  | @obj members _ _ =>
    cases members with
    | nil => exact ⟨'\x7b', ['\x7d'], by simp, rfl, by decide⟩
    | cons m members =>
      exact ⟨'\x7b', _, (List.append_nil _).symm.trans (toList_obj level m.1 m.2 members []), rfl,
        by decide⟩

theorem IsPlain.skipSpace_prettyAt {j : Json} (h : IsPlain j) (level : Nat) (rest : List Char) :
    skipSpace ((prettyAt level j).toList ++ rest) = (prettyAt level j).toList ++ rest := by
  obtain ⟨c, cs, hp, hc, -⟩ := h.toList_prettyAt level
  rw [hp, List.cons_append, skipSpace_cons hc]

/-! ## Scalars -/

theorem reads_null : Reads null := by
  intro level fuel rest hf _
  have hp : (prettyAt level null).toList = ['n', 'u', 'l', 'l'] := by simp [scalar]
  rw [hp] at hf ⊢
  cases fuel with
  | zero => cases hf
  | succ fuel => rfl

theorem reads_bool (b : Bool) : Reads (bool b) := by
  intro level fuel rest hf _
  have hp : (prettyAt level (bool b)).toList =
      if b then ['t', 'r', 'u', 'e'] else ['f', 'a', 'l', 's', 'e'] := by
    cases b <;> simp [scalar]
  rw [hp] at hf ⊢
  cases fuel with
  | zero => cases b <;> cases hf
  | succ fuel => cases b <;> rfl

theorem reads_str (s : String) : Reads (str s) := by
  intro level fuel rest hf _
  have hp : ∀ rest, (prettyAt level (str s)).toList ++ rest =
      '"' :: (s.toList.flatMap escapeChar ++ '"' :: rest) := toList_escaped s
  rw [hp]
  cases fuel with
  | zero =>
    have hl := congrArg List.length (hp [])
    rw [List.append_nil, List.length_cons] at hl
    omega
  | succ fuel =>
    show (readString _).map _ = _
    rw [readString_escapeChar]
    rfl

theorem reads_int (n : Int) : Reads (int n) := by
  intro level fuel rest hf he
  obtain ⟨c, cs, hn, hc, hr⟩ := readNumber_toString n he
  have hp : (prettyAt level (int n)).toList = c :: cs := hn
  rw [hp] at hf ⊢
  cases fuel with
  | zero => cases hf
  | succ fuel =>
    rw [List.cons_append] at hr ⊢
    rw [readValue]
    · exact hr
    all_goals
      intro t ht
      obtain ⟨rfl, -⟩ := List.cons.inj ht
      simp at hc

/-! ## Lists -/

theorem ends_prettyItems (level outer : Nat) (items : List Json) (rest : List Char) :
    Ends ((prettyItems level items).toList ++ ((indent outer).toList ++ rest)) := by
  cases items with
  | nil => simpa using ends_indent outer rest
  | cons j items => simpa using .comma _

theorem readItems_prettyItems {level : Nat} (outer : Nat) (rest : List Char) {items : List Json} :
    ∀ {j : Json}, (∀ x ∈ j :: items, IsPlain x ∧ Reads x) → ∀ {fuel : Nat},
      (prettyAt level j).toList.length + (prettyItems level items).toList.length < fuel →
      readItems fuel ((prettyAt level j).toList ++ ((prettyItems level items).toList ++
        ((indent outer).toList ++ ']' :: rest))) = some (j :: items, rest) := by
  induction items with
  | nil =>
    intro j hj fuel hf
    obtain ⟨-, hr⟩ := hj j (.head _)
    cases fuel with
    | zero => cases hf
    | succ fuel =>
      rw [readItems, hr level fuel _ (by omega) (ends_prettyItems level outer [] _)]
      simp [skipSpace_indent, skipSpace_cons, isSpace]
  | cons k items ih =>
    intro j hj fuel hf
    obtain ⟨-, hr⟩ := hj j (.head _)
    have hk := (hj k (.tail _ (.head _))).1
    have hlen : (prettyItems level (k :: items)).toList.length =
        1 + (indent level).toList.length + (prettyAt level k).toList.length +
          (prettyItems level items).toList.length := by
      simp
      omega
    have htext : ∀ rest, (prettyItems level (k :: items)).toList ++ rest = ',' ::
        ((indent level).toList ++ ((prettyAt level k).toList ++
          ((prettyItems level items).toList ++ rest))) := by
      simp
    cases fuel with
    | zero => cases hf
    | succ fuel =>
      rw [readItems, hr level fuel _ (by omega) (ends_prettyItems level outer _ _), htext]
      have hrest : readItems fuel _ = _ := ih (fun x hx => hj x (.tail _ hx)) (by omega)
      simp [skipSpace_cons, isSpace, skipSpace_indent, hk.skipSpace_prettyAt, hrest]

theorem readValue_items {cs : List Char} (h : ∀ t, skipSpace cs ≠ ']' :: t) (fuel : Nat) :
    readValue (fuel + 1) ('[' :: cs) =
      (readItems fuel (skipSpace cs)).map fun p => (arr p.1, p.2) := by
  rw [readValue]
  split
  · next ht => exact absurd ht (h _)
  · rfl

theorem reads_arr {items : List Json} (h : ∀ j ∈ items, IsPlain j ∧ Reads j) :
    Reads (arr items) := by
  intro level fuel rest hf _
  cases items with
  | nil =>
    have hp : (prettyAt level (arr [])).toList = ['[', ']'] := by simp
    rw [hp] at hf ⊢
    cases fuel with
    | zero => cases hf
    | succ fuel => rfl
  | cons j items =>
    have hj := (h j (.head _)).1
    have hl := congrArg List.length (toList_arr level j items [])
    simp only [List.append_nil, List.length_append, List.length_cons, List.length_nil] at hl
    rw [toList_arr]
    cases fuel with
    | zero => omega
    | succ fuel =>
      rw [readValue_items, skipSpace_indent, hj.skipSpace_prettyAt,
        readItems_prettyItems level rest h (by omega)]
      · rfl
      · intro t ht
        obtain ⟨c, cs, hp, -, hc⟩ := hj.toList_prettyAt (level + 1)
        rw [skipSpace_indent, hj.skipSpace_prettyAt, hp] at ht
        exact hc (List.cons.inj ht).1

/-! ## Objects -/

theorem ends_prettyMembers (level outer : Nat) (members : List (Option String × Json))
    (rest : List Char) :
    Ends ((prettyMembers level members).toList ++ ((indent outer).toList ++ rest)) := by
  cases members with
  | nil => simpa using ends_indent outer rest
  | cons m members => simpa using .comma _

section Members

variable {fuel : Nat} {j : Json} {cs rest rest' : List Char} (name : String)

theorem readMembers_last (h : readValue fuel (skipSpace cs) = some (j, rest))
    (hr : skipSpace rest = '\x7d' :: rest') :
    readMembers (fuel + 1) ((escapedName (some name)).toList ++ ':' :: ' ' :: cs) =
      some ([(some name, j)], rest') := by
  have hs : skipSpace (' ' :: cs) = skipSpace cs := rfl
  rw [escapedName, Option.getD_some, toList_escaped]
  simp [readMembers, readString_escapeChar, skipSpace_cons, isSpace, hs, h, hr]

theorem readMembers_next {rest'' : List Char} {members : List (Option String × Json)}
    (h : readValue fuel (skipSpace cs) = some (j, rest)) (hr : skipSpace rest = ',' :: rest')
    (hm : readMembers fuel (skipSpace rest') = some (members, rest'')) :
    readMembers (fuel + 1) ((escapedName (some name)).toList ++ ':' :: ' ' :: cs) =
      some ((some name, j) :: members, rest'') := by
  have hs : skipSpace (' ' :: cs) = skipSpace cs := rfl
  rw [escapedName, Option.getD_some, toList_escaped]
  simp [readMembers, readString_escapeChar, skipSpace_cons, isSpace, hs, h, hr, hm]

end Members

theorem readMembers_prettyMembers {level : Nat} (outer : Nat) (rest : List Char)
    {members : List (Option String × Json)} :
    ∀ {name : Option String} {j : Json},
      (∀ m ∈ (name, j) :: members, m.1.isSome = true ∧ IsPlain m.2 ∧ Reads m.2) →
      ∀ {fuel : Nat}, (prettyAt level j).toList.length +
        (prettyMembers level members).toList.length < fuel →
      readMembers fuel ((escapedName name).toList ++ ':' :: ' ' :: ((prettyAt level j).toList ++
        ((prettyMembers level members).toList ++ ((indent outer).toList ++ '\x7d' :: rest)))) =
          some ((name, j) :: members, rest) := by
  induction members with
  | nil =>
    intro name j hj fuel hf
    obtain ⟨hn, hp, hr⟩ := hj (name, j) (.head _)
    obtain ⟨name, rfl⟩ := Option.isSome_iff_exists.1 hn
    cases fuel with
    | zero => cases hf
    | succ fuel =>
      have hv := hr level fuel _ (by dsimp only; omega)
        (ends_prettyMembers level outer [] ('\x7d' :: rest))
      rw [← hp.skipSpace_prettyAt] at hv
      refine readMembers_last name hv ?_
      simp [skipSpace_indent, skipSpace_cons, isSpace]
  | cons m members ih =>
    intro name j hj fuel hf
    obtain ⟨hn, hp, hr⟩ := hj (name, j) (.head _)
    obtain ⟨name, rfl⟩ := Option.isSome_iff_exists.1 hn
    have hlen : (prettyMembers level (m :: members)).toList.length =
        3 + (indent level).toList.length + (escapedName m.1).toList.length +
          (prettyAt level m.2).toList.length + (prettyMembers level members).toList.length := by
      simp
      omega
    have htext : ∀ rest, (prettyMembers level (m :: members)).toList ++ rest = ',' ::
        ((indent level).toList ++ ((escapedName m.1).toList ++ ':' :: ' ' ::
          ((prettyAt level m.2).toList ++ ((prettyMembers level members).toList ++ rest)))) := by
      simp
    cases fuel with
    | zero => cases hf
    | succ fuel =>
      have hv := hr level fuel _ (by dsimp only; omega)
        (ends_prettyMembers level outer (m :: members) ('\x7d' :: rest))
      rw [← hp.skipSpace_prettyAt] at hv
      refine readMembers_next name hv (by rw [htext, skipSpace_cons rfl]) ?_
      rw [skipSpace_indent, skipSpace_escapedName]
      exact ih (fun x hx => hj x (.tail _ hx)) (by omega)

theorem readValue_members {cs : List Char} (h : ∀ t, skipSpace cs ≠ '\x7d' :: t) (fuel : Nat) :
    readValue (fuel + 1) ('\x7b' :: cs) =
      (readMembers fuel (skipSpace cs)).map fun p => (obj p.1, p.2) := by
  rw [readValue]
  split
  · next ht => exact absurd ht (h _)
  · rfl

theorem reads_obj {members : List (Option String × Json)}
    (h : ∀ m ∈ members, m.1.isSome = true ∧ IsPlain m.2 ∧ Reads m.2) : Reads (obj members) := by
  intro level fuel rest hf _
  cases members with
  | nil =>
    have hp : (prettyAt level (obj [])).toList = ['\x7b', '\x7d'] := by simp
    rw [hp] at hf ⊢
    cases fuel with
    | zero => cases hf
    | succ fuel => rfl
  | cons m members =>
    obtain ⟨name, j⟩ := m
    have hl := congrArg List.length (toList_obj level name j members [])
    simp only [List.append_nil, List.length_append, List.length_cons, List.length_nil] at hl
    rw [toList_obj]
    cases fuel with
    | zero => omega
    | succ fuel =>
      rw [readValue_members, skipSpace_indent, skipSpace_escapedName,
        readMembers_prettyMembers level rest h (by omega)]
      · rfl
      · intro t ht
        rw [skipSpace_indent, skipSpace_escapedName, escapedName, toList_escaped] at ht
        cases ht

/-! ## The whole -/

theorem IsPlain.reads {j : Json} (h : IsPlain j) : Reads j := by
  induction h with
  | null => exact reads_null
  | bool b => exact reads_bool b
  | int n => exact reads_int n
  | str s => exact reads_str s
  | arr hp ih => exact reads_arr fun j hj => ⟨hp j hj, ih j hj⟩
  | obj hn hp ih => exact reads_obj fun m hm => ⟨hn m hm, hp m hm, ih m hm⟩

/-- **A plain value is read back from its text over several lines.** -/
theorem parse?_pretty {j : Json} (h : IsPlain j) : parse? j.pretty = some j := by
  have hr := h.reads 0 (2 * j.pretty.toList.length + 2) [] (by rw [pretty]; omega) .nil
  have hs := h.skipSpace_prettyAt 0 []
  rw [List.append_nil] at hr hs
  rw [parse?, pretty, hs]
  rw [pretty] at hr
  rw [hr]
  rfl

end Freshness.Json
