import ClassList.Proofs.Section.Reading
import Mathlib.Tactic.TFAE

namespace ClassList.Section

theorem marker_not_isPrefix_classLine (classes : Text) : ¬ marker <+: classLine classes := by
  unfold classLine
  split
  · intro hprefix
    have hhead := (List.cons_prefix_cons.mp hprefix).1
    exact absurd hhead (by decide)
  · next h =>
    intro hprefix
    exact h (List.isPrefixOf_iff_prefix.mpr hprefix)

theorem trim_classLine {classes : Text} (hclasses : Text.IsLine classes) :
    Text.trim (classLine classes) = classes := by
  unfold classLine
  split
  · simp [hclasses.trim_eq]
  · exact hclasses.trim_eq

theorem lasting_classLine {part : Section} (hpart : part.Legible) :
    Text.Lasting (classLine part.classes) := by
  unfold classLine
  split
  · exact hpart.classes.lasting_cons_space
  · exact hpart.classes.lasting hpart.classes_ne_nil

theorem lines_renderLines {parts : List Section} (hparts : ∀ part ∈ parts, part.Legible) :
    Text.lines (renderLines parts) = parts.flatMap lines := by
  apply Text.lines_join
  intro row hrow
  obtain ⟨part, hpart, hrow⟩ := List.mem_flatMap.mp hrow
  have hlegible := hparts part hpart
  unfold lines at hrow
  cases hlabel : part.label with
  | none =>
    rw [hlabel] at hrow
    rw [List.mem_singleton.mp hrow]
    exact lasting_classLine hlegible
  | some label =>
    rw [hlabel] at hrow
    rcases List.mem_cons.mp hrow with rfl | hrow
    · exact (hlegible.label label hlabel).lasting_cons_space.append marker (by decide)
    · rw [List.mem_singleton.mp hrow]
      exact lasting_classLine hlegible

namespace Reader

theorem read_label (reader : Reader) {label : Text} (hlabel : Text.IsLine label) :
    reader.read (marker ++ ' ' :: label) = ⟨reader.sections, some label, []⟩ := by
  have htrim : Text.trim (' ' :: label) = label := by
    simp [hlabel.trim_eq]
  change (⟨reader.sections, some (Text.trim (' ' :: label)), []⟩ : Reader) = _
  rw [htrim]

theorem read_classLine (reader : Reader) {part : Section} (hpart : part.Legible) :
    reader.read (classLine part.classes) =
      { reader with pending := reader.pending ++ [part.classes] } := by
  have htrim := trim_classLine hpart.classes
  obtain ⟨label, hline, _⟩ | ⟨_, hblank, _⟩ | ⟨_, _, hread⟩ :=
    reader.read_cases (classLine part.classes)
  · exact absurd ⟨label, hline.symm⟩ (marker_not_isPrefix_classLine part.classes)
  · exact absurd (htrim.symm.trans hblank) hpart.classes_ne_nil
  · rw [hread, htrim]

@[simp] theorem sections_pending_singleton (closed : List Section) (label : Option Text)
    (classes : Text) :
    (Reader.mk closed label [classes]).sections = closed ++ [⟨label, classes⟩] := by
  simp [sections]

theorem sections_foldl_read_lines (reader : Reader) {part : Section} (hpart : part.Legible)
    (hlabel : part.label ≠ none) :
    (part.lines.foldl read reader).sections = reader.sections ++ [part] := by
  obtain ⟨label, hsome⟩ := Option.ne_none_iff_exists'.mp hlabel
  simp only [lines, hsome, List.foldl_cons, List.foldl_nil]
  rw [read_label reader (hpart.label label hsome), read_classLine _ hpart]
  simp [← hsome]

theorem sections_foldl_read_flatMap_lines (reader : Reader) {parts : List Section}
    (hparts : ∀ part ∈ parts, part.Legible) (hlabels : ∀ part ∈ parts, part.label ≠ none) :
    ((parts.flatMap lines).foldl read reader).sections = reader.sections ++ parts := by
  induction parts generalizing reader with
  | nil => simp
  | cons part rest ih =>
    obtain ⟨hpart, hparts⟩ := List.forall_mem_cons.mp hparts
    obtain ⟨hlabel, hlabels⟩ := List.forall_mem_cons.mp hlabels
    simp [ih _ hparts hlabels, sections_foldl_read_lines reader hpart hlabel]

end Reader

/-- Well-formed sections read back from their lines. The first section is treated apart, because
    it alone may be without a label, and then there is no line that opens it. -/
theorem parseLines_renderLines {parts : List Section} (hparts : WellFormed parts) :
    parseLines (renderLines parts) = parts := by
  unfold parseLines
  rw [lines_renderLines hparts.legible]
  cases parts with
  | nil => rfl
  | cons part rest =>
    obtain ⟨hpart, hrest⟩ := List.forall_mem_cons.mp hparts.legible
    rw [List.flatMap_cons, List.foldl_append,
      Reader.sections_foldl_read_flatMap_lines _ hrest hparts.label_ne_none]
    cases hlabel : part.label with
    | none =>
      simp only [lines, hlabel, List.foldl_cons, List.foldl_nil]
      rw [Reader.read_classLine _ hpart]
      simp [Reader.start, ← hlabel]
    | some label =>
      rw [Reader.sections_foldl_read_lines _ hpart (by simp [hlabel])]
      rfl

/-- Grouped lines lose nothing of exactly the well-formed sections. A list of sections is well
    formed if and only if it reads back from its lines, and if and only if it is what some text
    reads as. Hence what has been read once can be written and read again without a change. -/
theorem lines_lossless_iff_wellFormed :
    (∀ parts : List Section,
      List.TFAE [WellFormed parts, parseLines (renderLines parts) = parts,
        ∃ text, parseLines text = parts]) ∧
    ∀ text, parseLines (renderLines (parseLines text)) = parseLines text := by
  constructor
  · intro parts
    tfae_have 1 → 2 := parseLines_renderLines
    tfae_have 2 → 3 := fun hparts => ⟨renderLines parts, hparts⟩
    tfae_have 3 → 1 := by
      rintro ⟨text, rfl⟩
      exact wellFormed_parseLines text
    tfae_finish
  · intro text
    exact parseLines_renderLines (wellFormed_parseLines text)

end ClassList.Section
