import ClassList.Proofs.Arrangement.Joined
import ClassList.Proofs.Section.RoundTrip
import ClassList.Catalog.Standard

namespace ClassList

theorem Arrangement.join_classes_sections (arrangement : Arrangement) :
    Text.join ' ' (arrangement.sections.map Section.classes) =
      Text.join ' ' arrangement.tokens := by
  rw [sections, List.map_map]
  exact arrangement.join_joined

namespace Catalog

/-- A catalogue whose labels can be read back from label lines. -/
def LabelsAreLines (catalog : Catalog) : Prop :=
  ∀ group ∈ catalog, Text.IsLine group.label

theorem labelsAreLines_standard : standard.LabelsAreLines := by
  have hlabels : ∀ group ∈ standard, '\n' ∉ group.label ∧ Text.trim group.label = group.label := by
    decide
  intro group hgroup
  exact ⟨(hlabels group hgroup).1, (hlabels group hgroup).2⟩

theorem isLine_otherLabel : Text.IsLine otherLabel :=
  ⟨by decide, by decide⟩

theorem LabelsAreLines.isLine_label {catalog : Catalog} (hlabels : catalog.LabelsAreLines)
    {label : Text} (hlabel : label ∈ catalog.labels) : Text.IsLine label := by
  rcases List.mem_append.mp hlabel with hnamed | hother
  · obtain ⟨group, hgroup, rfl⟩ := List.mem_map.mp hnamed
    exact hlabels group hgroup
  · rw [List.mem_singleton.mp hother]
    exact isLine_otherLabel

/-- The classes of a bucket take up a line: they are words, which hold no blank at all. -/
theorem isLine_joined {catalog : Catalog} {text : Text} {bucket : Bucket}
    (hbucket : bucket ∈ (catalog.arrange text).buckets) :
    bucket.joined ≠ [] ∧ Text.IsLine bucket.joined := by
  apply Text.isLine_join ((catalog.arrange text).tokens_ne_nil bucket hbucket)
  intro token htoken
  have hword := isWord_of_mem_bucket hbucket htoken
  exact ⟨hword.1, Text.isLine_of_isWord hword⟩

/-- The sections of an arranged text can be told from their lines. -/
theorem LabelsAreLines.wellFormed_sections {catalog : Catalog} (hlabels : catalog.LabelsAreLines)
    (text : Text) : Section.WellFormed (catalog.arrange text).sections := by
  constructor
  · intro part hpart
    obtain ⟨bucket, _, rfl⟩ := List.mem_map.mp (List.mem_of_mem_tail hpart)
    simp
  · intro part hpart
    obtain ⟨bucket, hbucket, rfl⟩ := List.mem_map.mp hpart
    obtain ⟨hclasses_ne, hclasses⟩ := isLine_joined hbucket
    refine ⟨?_, hclasses_ne, hclasses⟩
    intro label hlabel
    cases hlabel
    exact hlabels.isLine_label (label_mem_labels hbucket)

theorem LabelsAreLines.parseLines_renderGrouped {catalog : Catalog}
    (hlabels : catalog.LabelsAreLines) (text : Text) :
    Section.parseLines (catalog.arrange text).renderGrouped = (catalog.arrange text).sections :=
  Section.parseLines_renderLines (hlabels.wellFormed_sections text)

theorem renderInline_arrange (catalog : Catalog) (text : Text) :
    (catalog.arrange text).renderInline =
      Text.join ' ' ((catalog.arrange text).sections.map Section.classes) := by
  rw [Arrangement.join_classes_sections]
  exact catalog.writeInline_eq_join text

/-- The layouts agree through the grouped lines. Where labels can be read back, the grouped lines
    of an arranged text read as its sections, and the text on one line has their classes. The
    standard catalogue has such labels, and what it writes with comments is the collapsed call on
    the sections that its grouped lines read as, or the text itself when there are none. -/
theorem layouts_agree_through_lines :
    (∀ catalog : Catalog, catalog.LabelsAreLines → ∀ text,
      Section.parseLines (catalog.arrange text).renderGrouped = (catalog.arrange text).sections ∧
      (catalog.arrange text).renderInline =
        Text.join ' ' ((Section.parseLines (catalog.arrange text).renderGrouped).map
          Section.classes)) ∧
    standard.LabelsAreLines ∧
    ∀ utility text,
      standard.writeCommented utility text =
        ((Call.mk utility (Section.parseLines (standard.writeGrouped text))).renderCollapsed).getD
          text := by
  refine ⟨?_, labelsAreLines_standard, ?_⟩
  · intro catalog hlabels text
    rw [hlabels.parseLines_renderGrouped]
    exact ⟨rfl, catalog.renderInline_arrange text⟩
  · intro utility text
    rw [writeGrouped, labelsAreLines_standard.parseLines_renderGrouped]
    rfl

/-- A label and classes that start like a label line, read back from the lines between them. -/
theorem layouts_agree_through_lines_slashes :
    LabelsAreLines [⟨"//x".toList, .utility, [⟨"flex".toList⟩]⟩] ∧
    Section.parseLines
        (arrange [⟨"//x".toList, .utility, [⟨"flex".toList⟩]⟩]
          "//x flex\r// a//b".toList).renderGrouped =
      [⟨some "//x".toList, "flex".toList⟩, ⟨some "Other".toList, "//x // a//b".toList⟩] := by
  have hlabels : LabelsAreLines [⟨"//x".toList, .utility, [⟨"flex".toList⟩]⟩] := by
    intro group hgroup
    rw [List.mem_singleton.mp hgroup]
    exact ⟨by decide, by decide⟩
  refine ⟨hlabels, ?_⟩
  rw [(layouts_agree_through_lines.1 _ hlabels "//x flex\r// a//b".toList).1]
  decide

end Catalog

end ClassList
