import ClassList.Text.Literal

namespace ClassList.Text

/-- What the inside of a literal means. A backslash stands for the character behind it, whichever
    that is, and any character but a backslash and a quote stands for itself. -/
inductive Spells : Text → Text → Prop where
  | nil : Spells [] []
  | escaped (c : Char) {written inside : Text} (rest : Spells written inside) :
      Spells ('\\' :: c :: written) (c :: inside)
  | plain {c : Char} (hslash : c ≠ '\\') (hquote : c ≠ '"') {written inside : Text}
      (rest : Spells written inside) : Spells (c :: written) (c :: inside)

theorem spells_escape (text : Text) : Spells (escape text) text := by
  induction text with
  | nil => exact .nil
  | cons c cs ih =>
    rw [escape, List.flatMap_cons, escapeChar]
    split
    · exact .escaped c ih
    · next hplain =>
      obtain ⟨hslash, hquote⟩ := not_or.mp hplain
      exact .plain hslash hquote ih

/-- A reader goes through the inside of a literal and stops at the quote behind it. -/
theorem Spells.readLiteral?_append {breaks : Char → Bool} {written inside : Text}
    (hspells : Spells written inside) (hinside : ∀ c ∈ inside, breaks c = false) (after : Text) :
    readLiteral? breaks (written ++ '"' :: after) = some (inside, after) := by
  induction hspells with
  | nil => rfl
  | escaped c rest ih =>
    obtain ⟨hc, hrest⟩ := List.forall_mem_cons.mp hinside
    rw [List.cons_append, List.cons_append, readLiteral?, ih hrest]
    simp [hc]
  | plain hslash hquote rest ih =>
    obtain ⟨hc, hrest⟩ := List.forall_mem_cons.mp hinside
    rw [List.cons_append, readLiteral?, ih hrest]
    · simp [hc]
    · exact hquote
    · intro d ds hd
      exact absurd hd hslash

/-- What a reader has gone through up to a quote is the inside of a literal. -/
theorem exists_spells_of_readLiteral? {breaks : Char → Bool} {text inside after : Text}
    (h : readLiteral? breaks text = some (inside, after)) :
    ∃ written, Spells written inside ∧ text = written ++ '"' :: after := by
  fun_induction readLiteral? breaks text generalizing inside after with
  | case1 => cases h
  | case2 cs =>
    cases h
    exact ⟨[], .nil, rfl⟩
  | case3 c cs hbreak => cases h
  | case4 c cs hbreak ih =>
    obtain ⟨⟨rest, tail⟩, hrest, heq⟩ := Option.map_eq_some_iff.mp h
    cases heq
    obtain ⟨written, hspells, rfl⟩ := ih hrest
    exact ⟨'\\' :: c :: written, .escaped c hspells, rfl⟩
  | case5 c cs hquote hescape hbreak => cases h
  | case6 c cs hquote hescape hbreak ih =>
    obtain ⟨⟨rest, tail⟩, hrest, heq⟩ := Option.map_eq_some_iff.mp h
    cases heq
    -- a backslash has a character behind it here, since there is a quote to come
    have hslash : c ≠ '\\' := by
      rintro rfl
      cases cs with
      | nil => cases hrest
      | cons d ds => exact hescape d ds rfl rfl
    obtain ⟨written, hspells, rfl⟩ := ih hrest
    exact ⟨c :: written, .plain hslash hquote hspells, rfl⟩

/-- A written literal reads back, up to its closing quote. -/
theorem readLiteral?_escape {breaks : Char → Bool} {text : Text}
    (htext : ∀ c ∈ text, breaks c = false) (after : Text) :
    readLiteral? breaks (escape text ++ '"' :: after) = some (text, after) :=
  (spells_escape text).readLiteral?_append htext after

/-- The inside of a literal ends at the same place however its text goes on. -/
theorem Spells.append_quote_inj {written inside other meant after after' : Text}
    (hwritten : Spells written inside) (hother : Spells other meant)
    (h : written ++ '"' :: after = other ++ '"' :: after') :
    written = other ∧ inside = meant ∧ after = after' := by
  have hread : readLiteral? (fun _ => false) (written ++ '"' :: after) = some (inside, after) :=
    hwritten.readLiteral?_append (fun _ _ => rfl) after
  rw [h, hother.readLiteral?_append fun _ _ => rfl] at hread
  cases hread
  exact ⟨List.append_cancel_right h, rfl, rfl⟩

theorem escape_append_quote_inj {text other after after' : Text}
    (h : escape text ++ '"' :: after = escape other ++ '"' :: after') :
    text = other ∧ after = after' :=
  ((spells_escape text).append_quote_inj (spells_escape other) h).2

/-- A text as a string literal, between its quotes. -/
def literal (text : Text) : Text :=
  '"' :: escape text ++ ['"']

/-- What the literal at the start of a text means, and the text behind its closing quote. The
    literal may go on over any number of lines. -/
def readQuoted? : Text → Option (Text × Text)
  | '"' :: cs => readLiteral? (fun _ => false) cs
  | _ => none

theorem readQuoted?_eq_some_iff {text inside after : Text} :
    readQuoted? text = some (inside, after) ↔
      ∃ written, Spells written inside ∧ text = '"' :: (written ++ '"' :: after) := by
  constructor
  · intro hread
    unfold readQuoted? at hread
    split at hread
    · obtain ⟨written, hspells, rfl⟩ := exists_spells_of_readLiteral? hread
      exact ⟨written, hspells, rfl⟩
    · cases hread
  · rintro ⟨written, hspells, rfl⟩
    exact hspells.readLiteral?_append (fun _ _ => rfl) after

theorem literal_append (text after : Text) :
    literal text ++ after = '"' :: (escape text ++ '"' :: after) := by
  simp [literal]

/-- String literals are uniquely readable. A reader that takes the character behind a backslash as
    it is and stops at the first other quote reads a written literal as its text, and leaves what
    follows the literal. No other quote, in the literal or behind it, ends a literal that starts
    there. -/
theorem literal_uniquely_readable (text after : Text) :
    readQuoted? (literal text ++ after) = some (text, after) ∧
    (∀ written inside rest,
      (Spells written inside ∧ literal text ++ after = '"' :: (written ++ '"' :: rest)) ↔
        written = escape text ∧ inside = text ∧ rest = after) ∧
    ∀ start, readQuoted? start = some (text, after) ↔
      ∃ written, Spells written text ∧ start = '"' :: (written ++ '"' :: after) := by
  rw [literal_append]
  refine ⟨?_, ?_, fun start => readQuoted?_eq_some_iff⟩
  · exact readQuoted?_eq_some_iff.mpr ⟨escape text, spells_escape text, rfl⟩
  · intro written inside rest
    constructor
    · rintro ⟨hspells, h⟩
      exact hspells.append_quote_inj (spells_escape text) (List.cons.inj h).2.symm
    · rintro ⟨rfl, rfl, rfl⟩
      exact ⟨spells_escape inside, rfl⟩

/-- Backslashes in front of both quotes, and a continuation that starts like one more escape. -/
example : readQuoted? (literal "a\\\\\"b\\".toList ++ "\\\"c".toList) =
    some ("a\\\\\"b\\".toList, "\\\"c".toList) := by
  decide

end ClassList.Text
