import Freshness.Proofs.Toml.Scalars
import Mathlib.Data.List.Nodup

/-!
# TOML documents read back

* `IsName`, `Section.IsPlain` : the names and the tables that a document is written with;
* `readLine?_header`, `readLine?_entry` : each written line is read back, and nothing after it;
  `readLines_writeSection`, `readLines_writeSections` : so are those of a table, and of all of them;
* `Tree.alter?_append_self` : a table that has been named last is found behind the others;
  `foldlM_entries`, `foldlM_sections` : what the lines of a table define, and those of all of them;
* `parse?_writeSections` : tables with names of their own are read back.
-/

namespace Freshness.Toml

/-- A name that can stand without marks around it. -/
def IsName (s : String) : Prop := s.toList ≠ [] ∧ ∀ c ∈ s.toList, isBare c = true

instance (s : String) : Decidable (IsName s) :=
  @instDecidableAnd _ _ inferInstance (List.decidableBAll _ _)

/-- A table that is written in full, and each of its values only once. -/
structure Section.IsPlain (s : Section) : Prop where
  name : IsName s.name
  keys : ∀ e ∈ s.entries, IsName e.1
  values : ∀ e ∈ s.entries, e.2.IsExact
  nodup : (s.entries.map (·.1)).Nodup

/-! ## Lines -/

def entryLine (e : String × Scalar) : Line := .value ⟨[], e.1⟩ (.scalar e.2)

/-- The lines that a table is written on. -/
def Section.lines (s : Section) : List Line := .header ⟨[], s.name⟩ :: s.entries.map entryLine

theorem IsName.eq_cons {s : String} (h : IsName s) :
    ∃ c cs, s.toList = c :: cs ∧ isBare c = true ∧ ∀ x ∈ cs, isBare x = true := by
  obtain ⟨c, cs, hs⟩ := List.exists_cons_of_ne_nil h.1
  have hb := h.2
  rw [hs] at hb
  exact ⟨c, cs, hs, hb c List.mem_cons_self, fun x hx => hb x (List.mem_cons_of_mem c hx)⟩

theorem skipSpace_cons {c : Char} (h : isSpace c = false) (cs : List Char) :
    skipSpace (c :: cs) = c :: cs := List.dropWhile_cons_of_neg (by simp [h])

theorem isSpace_of_isBare {c : Char} (h : isBare c = true) : isSpace c = false := by
  refine Bool.eq_false_iff.2 fun hs => ?_
  obtain rfl | rfl : c = ' ' ∨ c = '\t' := by simpa [isSpace] using hs
  · revert h
    decide
  · revert h
    decide

theorem readName?_append {s : String} (h : IsName s) {c : Char} (hc : isBare c = false)
    (rest : List Char) : readName? (s.toList ++ c :: rest) = some (s, c :: rest) := by
  have ht : (s.toList ++ c :: rest).takeWhile isBare = s.toList := by
    rw [List.takeWhile_append_of_pos h.2, List.takeWhile_cons_of_neg (by simp [hc]),
      List.append_nil]
  have hd : (s.toList ++ c :: rest).dropWhile isBare = c :: rest := by
    rw [List.dropWhile_append_of_pos h.2, List.dropWhile_cons_of_neg (by simp [hc])]
  obtain ⟨a, as, hs, ha, -⟩ := h.eq_cons
  rw [readName?.eq_def]
  split
  · next t he =>
    rw [hs] at he
    obtain ⟨rfl, -⟩ := List.cons.inj he
    exact absurd ha (by decide)
  · next t he =>
    rw [hs] at he
    obtain ⟨rfl, -⟩ := List.cons.inj he
    exact absurd ha (by decide)
  · simp only [ht, hd, List.isEmpty_eq_false_iff.2 h.1, String.ofList_toList, Bool.false_eq_true,
      if_false]

theorem readKey_append {s : String} (h : IsName s) {c : Char} {rest rest' : List Char}
    (hc : isBare c = false) (hr : skipSpace (c :: rest) = rest') (hd : ∀ t, rest' ≠ '.' :: t) :
    readKey keyNames (s.toList ++ c :: rest) = some (⟨[], s⟩, rest') := by
  obtain ⟨a, as, hs, ha, -⟩ := h.eq_cons
  have hk : skipSpace (s.toList ++ c :: rest) = s.toList ++ c :: rest := by
    rw [hs, List.cons_append]
    exact skipSpace_cons (isSpace_of_isBare ha) _
  rw [show keyNames = 78 + 1 from rfl, readKey, hk, readName?_append h hc]
  simp only [Option.bind_eq_bind, Option.bind_some, hr]

theorem readLine?_header {s : String} (h : IsName s) (rest : List Char) :
    readLine? ('[' :: s.toList ++ [']', '\n'] ++ rest) = some (.header ⟨[], s⟩, rest) := by
  have hk : readKey keyNames (s.toList ++ ']' :: '\n' :: rest) =
      some (⟨[], s⟩, ']' :: '\n' :: rest) :=
    readKey_append h (by decide) (skipSpace_cons (by decide) _) (by simp)
  have he : '[' :: s.toList ++ [']', '\n'] ++ rest = '[' :: (s.toList ++ ']' :: '\n' :: rest) := by
    simp
  obtain ⟨a, as, hs, ha, -⟩ := h.eq_cons
  rw [he, readLine?, hk]
  · simp [dropMark?]
  · rintro t ht
    rw [hs] at ht
    obtain ⟨rfl, -⟩ := List.cons.inj ht
    exact absurd ha (by decide)

theorem readLine?_entry {e : String × Scalar} (hk : IsName e.1) (hv : e.2.IsExact)
    (rest : List Char) : readLine? (writeEntry e ++ rest) = some (entryLine e, rest) := by
  have he : writeEntry e ++ rest =
      e.1.toList ++ ' ' :: '=' :: ' ' :: (writeScalar e.2 ++ '\n' :: rest) := by
    simp [writeEntry]
  have hs : skipSpace (' ' :: '=' :: ' ' :: (writeScalar e.2 ++ '\n' :: rest)) =
      '=' :: ' ' :: (writeScalar e.2 ++ '\n' :: rest) := by
    rw [skipSpace, List.dropWhile_cons_of_pos (by decide)]
    exact skipSpace_cons (by decide) _
  have hb : skipSpace (' ' :: (writeScalar e.2 ++ '\n' :: rest)) =
      writeScalar e.2 ++ '\n' :: rest := by
    obtain ⟨c, cs, hw, hc, -⟩ := writeScalar_eq_cons hv
    rw [skipSpace, List.dropWhile_cons_of_pos (by decide), hw]
    exact skipSpace_cons hc _
  have hp : readPair (readValue valueDepth) (writeEntry e ++ rest) =
      some ((⟨[], e.1⟩, .scalar e.2), '\n' :: rest) := by
    rw [readPair, he, readKey_append hk (by decide) hs (by simp)]
    simp [dropMark?, hb, readValue_writeScalar hv]
  obtain ⟨a, as, ha, hc, -⟩ := hk.eq_cons
  rw [he, ha, List.cons_append] at hp ⊢
  rw [readLine?, hp]
  · simp [entryLine]
  all_goals
    rintro t ht
    obtain ⟨rfl, -⟩ := List.cons.inj ht
    exact absurd hc (by decide)

/-! ## Documents -/

theorem skipLines_cons {c : Char} (h : c = '[' ∨ isBare c = true) (cs : List Char) :
    skipLines false (c :: cs) = c :: cs := by
  have hs : isSpace c = false := by
    obtain rfl | hb := h
    · decide
    · exact isSpace_of_isBare hb
  have hc : c ≠ '\n' ∧ c ≠ '\r' ∧ c ≠ '#' := by
    refine ⟨?_, ?_, ?_⟩ <;> (rintro rfl; revert h; decide)
  rw [skipLines]
  · rw [if_neg (by simp [hs])]
  · exact hc.1
  · exact fun _ he _ => hc.2.1 he
  · exact hc.2.2

theorem readLines_cons {c : Char} (hc : c = '[' ∨ isBare c = true) {cs rest : List Char}
    {line : Line} (h : readLine? (c :: cs) = some (line, rest)) (fuel : Nat) :
    readLines (fuel + 1) (c :: cs) = (readLines fuel rest).map (line :: ·) := by
  rw [readLines, skipLines_cons hc]
  simp only [Option.bind_eq_bind, h, Option.bind_some]
  cases readLines fuel rest <;> rfl

theorem readLines_entries {es : List (String × Scalar)} (hk : ∀ e ∈ es, IsName e.1)
    (hv : ∀ e ∈ es, e.2.IsExact) (fuel : Nat) (rest : List Char) :
    readLines (fuel + es.length) (es.flatMap writeEntry ++ rest) =
      (readLines fuel rest).map (es.map entryLine ++ ·) := by
  induction es with
  | nil => simp
  | cons e es ih =>
    have hr := readLine?_entry (hk e List.mem_cons_self) (hv e List.mem_cons_self)
      (es.flatMap writeEntry ++ rest)
    obtain ⟨a, as, ha, hc, -⟩ := (hk e List.mem_cons_self).eq_cons
    have hw : writeEntry e = a :: (as ++ " = ".toList ++ writeScalar e.2 ++ ['\n']) := by
      simp [writeEntry, ha]
    rw [List.flatMap_cons, List.append_assoc, List.length_cons, ← Nat.add_assoc]
    rw [hw, List.cons_append] at hr ⊢
    rw [readLines_cons (.inr hc) hr,
      ih (fun x hx => hk x (List.mem_cons_of_mem e hx)) fun x hx => hv x (List.mem_cons_of_mem e hx)]
    simp [Function.comp_def]

theorem readLines_writeSection {s : Section} (h : s.IsPlain) (fuel : Nat) (rest : List Char) :
    readLines (fuel + s.lines.length) (writeSection s ++ rest) =
      (readLines fuel rest).map (s.lines ++ ·) := by
  have hw : writeSection s ++ rest =
      '[' :: s.name.toList ++ [']', '\n'] ++ (s.entries.flatMap writeEntry ++ rest) := by
    simp [writeSection]
  have hr := readLine?_header h.name (s.entries.flatMap writeEntry ++ rest)
  rw [hw, Section.lines, List.length_cons, List.length_map, ← Nat.add_assoc]
  simp only [List.cons_append] at hr ⊢
  rw [readLines_cons (.inl rfl) hr, readLines_entries h.keys h.values, Option.map_map]
  rfl

/-- The blank line between two tables defines nothing. -/
theorem readLines_newline (fuel : Nat) (cs : List Char) :
    readLines (fuel + 1) ('\n' :: cs) = readLines (fuel + 1) cs := by
  rw [readLines, readLines, skipLines]

theorem readLines_writeSections {ss : List Section} (h : ∀ s ∈ ss, s.IsPlain) (fuel : Nat) :
    readLines (fuel + 1 + (ss.flatMap Section.lines).length) (writeSections ss) =
      some (ss.flatMap Section.lines) := by
  induction ss with
  | nil => rfl
  | cons s ss ih =>
    have hs := h s List.mem_cons_self
    specialize ih fun x hx => h x (List.mem_cons_of_mem s hx)
    have hl : fuel + 1 + ((s :: ss).flatMap Section.lines).length =
        fuel + 1 + (ss.flatMap Section.lines).length + s.lines.length := by
      rw [List.flatMap_cons, List.length_append]
      omega
    rw [hl]
    cases ss with
    | nil =>
      have he : writeSections [s] = writeSection s ++ writeSections [] := by
        simp [writeSections]
      rw [he, readLines_writeSection hs, ih]
      rfl
    | cons t ts =>
      have he : writeSections (s :: t :: ts) =
          writeSection s ++ '\n' :: writeSections (t :: ts) := by
        simp [writeSections]
      rw [he, readLines_writeSection hs, Nat.add_right_comm, readLines_newline,
        Nat.add_right_comm, ih]
      rfl

/-! ## Tables -/

theorem Tree.alter?_of_notMem {key : String} {es : Tree.Entries} (h : key ∉ es.map (·.1))
    (f : Option Tree → Option Tree) :
    Tree.alter? key f es = (f none).map fun t => es ++ [(key, t)] := by
  induction es with
  | nil => rfl
  | cons e es ih =>
    obtain ⟨he, hes⟩ := not_or.1 (mt List.mem_cons.2 h)
    rw [Tree.alter?, if_neg (Ne.symm he), ih hes, Option.map_map]
    rfl

theorem Tree.alter?_append_self {key : String} {es : Tree.Entries} (h : key ∉ es.map (·.1))
    (t : Tree) (f : Option Tree → Option Tree) :
    Tree.alter? key f (es ++ [(key, t)]) = (f (some t)).map fun t => es ++ [(key, t)] := by
  induction es with
  | nil => simp [Tree.alter?]
  | cons e es ih =>
    obtain ⟨he, hes⟩ := not_or.1 (mt List.mem_cons.2 h)
    rw [List.cons_append, Tree.alter?, if_neg (Ne.symm he), ih hes, Option.map_map]
    rfl

def leafOf (e : String × Scalar) : String × Tree := (e.1, .leaf (.scalar e.2))

def treeOf (s : Section) : String × Tree := (s.name, .table .headed (s.entries.map leafOf))

/-- The table that tables without parts of their own define. -/
def ofSections (ss : List Section) : Toml :=
  .table (ss.map fun s => (s.name, .table (s.entries.map fun e => (e.1, .scalar e.2))))

theorem toEntries_map_leafOf (es : List (String × Scalar)) :
    Tree.toEntries (es.map leafOf) = es.map fun e => (e.1, .scalar e.2) := by
  induction es with
  | nil => rfl
  | cons e es ih => simp [leafOf, Tree.toEntries, Tree.toToml, ih]

theorem toEntries_map_treeOf (ss : List Section) :
    Toml.table (Tree.toEntries (ss.map treeOf)) = ofSections ss := by
  unfold ofSections
  induction ss with
  | nil => rfl
  | cons s ss ih =>
    simp [treeOf, Tree.toEntries, Tree.toToml, toEntries_map_leafOf, Toml.table.inj ih]

/-- A value goes to the table that has been named last. -/
theorem line?_entryLine {es done : Tree.Entries} {name : String} {e : String × Scalar}
    (hn : name ∉ es.map (·.1)) (he : e.1 ∉ done.map (·.1)) :
    Draft.line? ⟨[name], es ++ [(name, .table .headed done)]⟩ (entryLine e) =
      some ⟨[name], es ++ [(name, .table .headed (done ++ [leafOf e]))]⟩ := by
  simp [entryLine, Draft.line?, Tree.within?, Tree.define?, Tree.insert?, Tree.alter?_of_notMem he,
    Tree.alter?_append_self hn, leafOf]

theorem foldlM_entries {es : Tree.Entries} {name : String} (hn : name ∉ es.map (·.1))
    (done : List (String × Scalar)) {more : List (String × Scalar)}
    (hd : ((done ++ more).map (·.1)).Nodup) :
    (more.map entryLine).foldlM Draft.line?
        ⟨[name], es ++ [(name, .table .headed (done.map leafOf))]⟩ =
      some ⟨[name], es ++ [(name, .table .headed ((done ++ more).map leafOf))]⟩ := by
  induction more generalizing done with
  | nil => simp
  | cons e more ih =>
    have he : e.1 ∉ (done.map leafOf).map (·.1) := by
      rw [List.map_append, List.map_cons, List.nodup_append] at hd
      intro hm
      refine hd.2.2 e.1 ?_ e.1 List.mem_cons_self rfl
      simpa [leafOf] using hm
    have ha : done ++ e :: more = done ++ [e] ++ more := List.append_cons ..
    rw [ha] at hd ⊢
    rw [List.map_cons, List.foldlM_cons, line?_entryLine hn he, ← ih (done ++ [e]) hd]
    simp

theorem foldlM_section {es : Tree.Entries} {place : List String} {s : Section} (h : s.IsPlain)
    (hn : s.name ∉ es.map (·.1)) :
    s.lines.foldlM Draft.line? ⟨place, es⟩ = some ⟨[s.name], es ++ [treeOf s]⟩ := by
  have hh : Draft.line? ⟨place, es⟩ (.header ⟨[], s.name⟩) =
      some ⟨[s.name], es ++ [(s.name, .table .headed [])]⟩ := by
    simp [Draft.line?, Tree.head?, Tree.within?, Tree.alter?_of_notMem hn, Key.path]
  rw [Section.lines, List.foldlM_cons, hh]
  exact foldlM_entries hn [] h.nodup

theorem foldlM_sections {ss : List Section} (h : ∀ s ∈ ss, s.IsPlain) (es : Tree.Entries)
    (hn : (es.map (·.1) ++ ss.map (·.name)).Nodup) (place : List String) :
    ∃ last, (ss.flatMap Section.lines).foldlM Draft.line? ⟨place, es⟩ =
      some ⟨last, es ++ ss.map treeOf⟩ := by
  induction ss generalizing es place with
  | nil => exact ⟨place, by simp⟩
  | cons s ss ih =>
    have hs : s.name ∉ es.map (·.1) := by
      rw [List.map_cons, List.nodup_append] at hn
      exact fun hm => hn.2.2 s.name hm s.name List.mem_cons_self rfl
    obtain ⟨last, hl⟩ := ih (fun x hx => h x (List.mem_cons_of_mem s hx)) (es ++ [treeOf s])
      (by simpa [treeOf] using hn) [s.name]
    refine ⟨last, ?_⟩
    rw [List.flatMap_cons, List.foldlM_append, foldlM_section (h s List.mem_cons_self) hs]
    exact hl.trans (by simp)

/-! ## Texts -/

theorem length_lines_le (ss : List Section) :
    (ss.flatMap Section.lines).length ≤ (writeSections ss).length := by
  have he : ∀ es : List (String × Scalar), es.length ≤ (es.flatMap writeEntry).length := by
    intro es
    induction es with
    | nil => exact Nat.le_refl 0
    | cons e es ih =>
      simp only [List.flatMap_cons, List.length_append, List.length_cons, writeEntry]
      omega
  have hs : ∀ s : Section, s.lines.length ≤ (writeSection s).length := by
    intro s
    have := he s.entries
    simp only [Section.lines, writeSection, List.length_append, List.length_cons, List.length_map]
    omega
  induction ss with
  | nil => exact Nat.le_refl 0
  | cons s ss ih =>
    have := hs s
    cases ss with
    | nil => simpa [writeSections] using this
    | cons t ts =>
      simp only [writeSections, List.map_cons, List.intercalate_cons_cons, List.length_append,
        List.flatMap_cons] at ih ⊢
      omega

theorem documentChars_writeSections (ss : List Section) :
    documentChars (String.ofList (writeSections ss)) = writeSections ss := by
  unfold documentChars
  rw [String.toList_ofList]
  split
  · next t h =>
    match ss with
    | [] => cases h
    | [s] => simp [writeSections, writeSection] at h
    | s :: t :: ts => simp [writeSections, writeSection] at h
  · rfl

/-- Tables with names of their own are read back. -/
theorem parse?_writeSections {ss : List Section} (h : ∀ s ∈ ss, s.IsPlain)
    (hn : (ss.map (·.name)).Nodup) :
    parse? (String.ofList (writeSections ss)) = some (ofSections ss) := by
  obtain ⟨last, hl⟩ := foldlM_sections h [] hn []
  have hf : (writeSections ss).length + 1 = (writeSections ss).length -
      (ss.flatMap Section.lines).length + 1 + (ss.flatMap Section.lines).length := by
    have := length_lines_le ss
    omega
  rw [parse?, documentChars_writeSections, hf, readLines_writeSections h, Option.bind_some,
    ofLines?, show ({} : Draft) = ⟨[], []⟩ from rfl, hl, ← toEntries_map_treeOf]
  rfl

end Freshness.Toml
