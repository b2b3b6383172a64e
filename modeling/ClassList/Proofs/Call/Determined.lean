import ClassList.Proofs.Call.Reading
import Mathlib.Data.List.Basic

namespace ClassList

/-- A text ends at the first character that it does not hold. -/
theorem Text.append_cons_inj {stop : Char} {text other after after' : Text} (htext : stop ∉ text)
    (hother : stop ∉ other) (h : text ++ stop :: after = other ++ stop :: after') :
    text = other ∧ after = after' := by
  induction text generalizing other with
  | nil =>
    cases other with
    | nil =>
      cases h
      exact ⟨rfl, rfl⟩
    | cons d ds =>
      cases h
      exact absurd List.mem_cons_self hother
  | cons c cs ih =>
    cases other with
    | nil =>
      cases h
      exact absurd List.mem_cons_self htext
    | cons d ds =>
      obtain ⟨rfl, htail⟩ := List.cons.inj h
      obtain ⟨rfl, hafter⟩ := ih (List.not_mem_of_not_mem_cons htext)
        (List.not_mem_of_not_mem_cons hother) htail
      exact ⟨rfl, hafter⟩

namespace Call

/-- A section whose label, if there is one, takes up a single line. -/
def LabelOnLine (part : Section) : Prop :=
  ∀ label, part.label = some label → '\n' ∉ label

theorem argument_append_of_label (label classes after : Text) :
    argument ⟨some label, classes⟩ ++ after =
      "    // ".toList ++ (label ++ '\n' ::
        ("    \"".toList ++ (Text.escape classes ++ '"' :: after))) := by
  simp only [argument, List.append_assoc, List.cons_append, List.nil_append]

theorem argument_append_of_no_label (classes after : Text) :
    argument ⟨none, classes⟩ ++ after =
      "    \"".toList ++ (Text.escape classes ++ '"' :: after) := by
  simp only [argument, List.append_assoc, List.singleton_append, List.nil_append]

/-- A comment line and a literal part in their fifth character. -/
theorem comment_ne_literal (after after' : Text) :
    "    // ".toList ++ after ≠ "    \"".toList ++ after' := by
  intro h
  have hfifth := congrArg (·[4]?) h
  exact absurd (Option.some.inj hfifth) (by decide)

/-- An argument ends at the same place however its section goes on. Its label ends with its line,
    and its classes with the quote that is not escaped. -/
theorem argument_append_inj {part other : Section} (hpart : LabelOnLine part)
    (hother : LabelOnLine other) {after after' : Text}
    (h : argument part ++ after = argument other ++ after') :
    part = other ∧ after = after' := by
  obtain ⟨label, classes⟩ := part
  obtain ⟨label', classes'⟩ := other
  cases label with
  | none =>
    cases label' with
    | none =>
      rw [argument_append_of_no_label, argument_append_of_no_label,
        List.append_cancel_left_eq] at h
      obtain ⟨rfl, rfl⟩ := Text.escape_append_quote_inj h
      exact ⟨rfl, rfl⟩
    | some label' =>
      rw [argument_append_of_no_label, argument_append_of_label] at h
      exact absurd h.symm (comment_ne_literal _ _)
  | some label =>
    cases label' with
    | none =>
      rw [argument_append_of_no_label, argument_append_of_label] at h
      exact absurd h (comment_ne_literal _ _)
    | some label' =>
      rw [argument_append_of_label, argument_append_of_label, List.append_cancel_left_eq] at h
      obtain ⟨rfl, hliteral⟩ := Text.append_cons_inj (hpart label rfl) (hother label' rfl) h
      rw [List.append_cancel_left_eq] at hliteral
      obtain ⟨rfl, hafter⟩ := Text.escape_append_quote_inj hliteral
      exact ⟨rfl, hafter⟩

/-- What follows the first argument of a call. -/
def afterFirst (rest : List Section) : Text :=
  rest.flatMap fun part => ",\n".toList ++ argument part

theorem intercalate_argument_cons (part : Section) (rest : List Section) :
    ",\n".toList.intercalate ((part :: rest).map argument) = argument part ++ afterFirst rest := by
  rw [List.map_cons, Text.intercalate_cons_eq_append_flatMap, List.flatMap_map]
  rfl

/-- The comma and the closing line feed tell whether another argument follows. -/
theorem afterFirst_inj {rest others : List Section} (hrest : ∀ part ∈ rest, LabelOnLine part)
    (hothers : ∀ part ∈ others, LabelOnLine part)
    (h : afterFirst rest ++ "\n  )\x7d".toList = afterFirst others ++ "\n  )\x7d".toList) :
    rest = others := by
  induction rest generalizing others with
  | nil =>
    cases others with
    | nil => rfl
    | cons other others =>
      -- one call closes with a line feed where the other has a comma
      have hfirst := congrArg (·[0]?) h
      exact absurd (Option.some.inj hfirst) (by decide)
  | cons part rest ih =>
    cases others with
    | nil =>
      have hfirst := congrArg (·[0]?) h
      exact absurd (Option.some.inj hfirst) (by decide)
    | cons other others =>
      obtain ⟨hpart, hrest'⟩ := List.forall_mem_cons.mp hrest
      obtain ⟨hother, hothers'⟩ := List.forall_mem_cons.mp hothers
      simp only [afterFirst, List.flatMap_cons, List.append_assoc,
        List.append_cancel_left_eq] at h
      obtain ⟨rfl, htail⟩ := argument_append_inj hpart hother h
      rw [ih hrest' hothers' htail]

/-- A call without sections starts its last line where another call has its first argument. -/
theorem close_ne_argument_append (part : Section) (after : Text) :
    "\n  )\x7d".toList ≠ argument part ++ after := by
  intro h
  have hfirst : some '\n' = (argument part ++ after).head? := congrArg List.head? h
  obtain ⟨label, classes⟩ := part
  cases label with
  | none =>
    rw [argument_append_of_no_label] at hfirst
    exact absurd (Option.some.inj hfirst) (by decide)
  | some label =>
    rw [argument_append_of_label] at hfirst
    exact absurd (Option.some.inj hfirst) (by decide)

/-- A written call determines its sections. Calls of one utility are written alike exactly if they
    have the same sections, in the same order, whatever stands in the classes, as long as no label
    holds a line feed. -/
theorem render_eq_render_iff {utility : Text} {parts others : List Section}
    (hparts : ∀ part ∈ parts, LabelOnLine part) (hothers : ∀ part ∈ others, LabelOnLine part) :
    (Call.mk utility parts).render = (Call.mk utility others).render ↔ parts = others := by
  constructor
  · intro h
    simp only [render, List.append_assoc, List.append_cancel_left_eq] at h
    cases parts with
    | nil =>
      cases others with
      | nil => rfl
      | cons other others =>
        rw [intercalate_argument_cons, List.append_assoc] at h
        exact absurd h (close_ne_argument_append other _)
    | cons part parts =>
      cases others with
      | nil =>
        rw [intercalate_argument_cons, List.append_assoc] at h
        exact absurd h.symm (close_ne_argument_append part _)
      | cons other others =>
        obtain ⟨hpart, hrest⟩ := List.forall_mem_cons.mp hparts
        obtain ⟨hother, hothers'⟩ := List.forall_mem_cons.mp hothers
        rw [intercalate_argument_cons, intercalate_argument_cons, List.append_assoc,
          List.append_assoc] at h
        obtain ⟨rfl, htail⟩ := argument_append_inj hpart hother h
        rw [afterFirst_inj hrest hothers' htail]
  · rintro rfl
    rfl

/-- Classes that read as the end of one literal, a comment line and the start of another. -/
theorem render_eq_render_iff_imitation :
    ((∀ part ∈ [Section.mk (some "A".toList) "flex\",\n    // B\n    \"mt-4".toList],
        LabelOnLine part) ∧
      ∀ part ∈ [Section.mk (some "A".toList) "flex".toList, ⟨some "B".toList, "mt-4".toList⟩],
        LabelOnLine part) ∧
    (Call.mk "cn".toList
        [⟨some "A".toList, "flex\",\n    // B\n    \"mt-4".toList⟩]).render ≠
      (Call.mk "cn".toList
        [⟨some "A".toList, "flex".toList⟩, ⟨some "B".toList, "mt-4".toList⟩]).render := by
  have hone : ∀ part ∈ [Section.mk (some "A".toList) "flex\",\n    // B\n    \"mt-4".toList],
      LabelOnLine part := by
    simp [LabelOnLine]
  have htwo : ∀ part ∈ [Section.mk (some "A".toList) "flex".toList,
      ⟨some "B".toList, "mt-4".toList⟩], LabelOnLine part := by
    simp [LabelOnLine]
  refine ⟨⟨hone, htwo⟩, ?_⟩
  rw [ne_eq, render_eq_render_iff hone htwo]
  decide

end Call

end ClassList
