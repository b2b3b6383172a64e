import ClassList.Proofs.Layout.Agreement
import ClassList.Proofs.Text.Comment

namespace ClassList

open Text (IsLine OpensNoComment blockOpener lineOpener)

/-- Classes without two slashes in a row need no indentation. -/
theorem Section.classLine_eq_self {classes : Text} (hclasses : ¬ lineOpener <:+: classes) :
    classLine classes = classes :=
  if_neg fun hmarker => hclasses (List.isPrefixOf_iff_prefix.mp hmarker).isInfix

namespace Catalog

theorem opensNoBlock_label_standard {label : Text} (hlabel : label ∈ standard.labels) :
    label ≠ [] ∧ ¬ blockOpener <:+: label := by
  have hall : ∀ label ∈ standard.labels, label ≠ [] ∧ ¬ blockOpener.occursIn label = true := by
    decide +kernel
  simpa using hall label hlabel

/-- A label line is a line of its own, and no block comment opens in it. -/
theorem labelLine_standard {label : Text} (hlabel : label ∈ standard.labels) :
    IsLine (Section.marker ++ ' ' :: label) ∧
      ¬ blockOpener <:+: Section.marker ++ ' ' :: label := by
  obtain ⟨hne, hblock⟩ := opensNoBlock_label_standard hlabel
  have hmarker : IsLine Section.marker := ⟨by decide, by decide⟩
  have hlabel_line : IsLine label := labelsAreLines_standard.isLine_label hlabel
  have hparts : ∀ part ∈ [Section.marker, label], part ≠ [] ∧ IsLine part :=
    List.forall_mem_cons.mpr
      ⟨⟨by decide, hmarker⟩, List.forall_mem_singleton.mpr ⟨hne, hlabel_line⟩⟩
  constructor
  · simpa using (Text.isLine_join (List.cons_ne_nil _ _) hparts).2
  · intro hopener
    rcases Text.isInfix_append_cons (by decide) hopener with hinside | hinside
    · rw [← Text.occursIn_iff_isInfix] at hinside
      exact absurd hinside (by decide)
    · exact hblock hinside

theorem opensNoComment_joined {catalog : Catalog} {text : Text} {bucket : Bucket}
    (hbucket : bucket ∈ (catalog.arrange text).buckets)
    (htokens : ∀ token ∈ (catalog.arrange text).tokens, OpensNoComment token) :
    OpensNoComment bucket.joined :=
  .join fun token htoken =>
    htokens token (List.mem_flatMap.mpr ⟨bucket, hbucket, htoken⟩)

/-- The grouped lines of an arranged text: a label line and a class line for each bucket. -/
def groupedRows (text : Text) : List Text :=
  (standard.arrange text).sections.flatMap Section.lines

theorem renderGrouped_eq_join (text : Text) :
    (standard.arrange text).renderGrouped = Text.join '\n' (groupedRows text) :=
  rfl

theorem groupedRows_eq {text : Text}
    (htokens : ∀ token ∈ (standard.arrange text).tokens, OpensNoComment token) :
    groupedRows text = (standard.arrange text).buckets.flatMap fun bucket =>
      [Section.marker ++ ' ' :: bucket.label, bucket.joined] := by
  rw [groupedRows, Arrangement.sections, List.flatMap_map, List.flatMap_def, List.flatMap_def]
  apply congrArg
  apply List.map_congr_left
  intro bucket hbucket
  have hline := (opensNoComment_joined hbucket htokens).line
  simp only [Section.lines, Section.classLine_eq_self hline]

theorem isLine_of_mem_groupedRows {text : Text}
    (htokens : ∀ token ∈ (standard.arrange text).tokens, OpensNoComment token) :
    ∀ row ∈ groupedRows text, row ≠ [] ∧ IsLine row ∧ ¬ blockOpener <:+: row := by
  rw [groupedRows_eq htokens]
  intro row hrow
  obtain ⟨bucket, hbucket, hrow⟩ := List.mem_flatMap.mp hrow
  rcases List.mem_cons.mp hrow with rfl | hrow
  · obtain ⟨hline, hblock⟩ := labelLine_standard (label_mem_labels hbucket)
    exact ⟨by simp, hline, hblock⟩
  · rw [List.mem_singleton.mp hrow]
    obtain ⟨hne, hline⟩ := isLine_joined hbucket
    exact ⟨hne, hline, (opensNoComment_joined hbucket htokens).block⟩

/-- Cleaning grouped lines leaves the tokens as they were arranged. -/
theorem words_clean_renderGrouped {text : Text}
    (htokens : ∀ token ∈ (standard.arrange text).tokens, OpensNoComment token) :
    Text.words (Text.clean (standard.arrange text).renderGrouped) =
      (standard.arrange text).tokens := by
  have hrows : ∀ row ∈ groupedRows text, '\n' ∉ row ∧ ¬ blockOpener <:+: row := by
    intro row hrow
    obtain ⟨_, hline, hblock⟩ := isLine_of_mem_groupedRows htokens row hrow
    exact ⟨hline.feed_not_mem, hblock⟩
  rw [renderGrouped_eq_join, Text.words_clean_join hrows, groupedRows_eq htokens,
    List.flatMap_assoc, Arrangement.tokens, List.flatMap_def, List.flatMap_def]
  apply congrArg
  apply List.map_congr_left
  intro bucket hbucket
  have hline := (opensNoComment_joined hbucket htokens).line
  have hlabel : Text.cutLine (Section.marker ++ ' ' :: bucket.label) = [] :=
    Text.cutLine_of_lineOpener_isPrefix (List.prefix_append _ _)
  have hwords : Text.words bucket.joined = bucket.tokens :=
    Text.words_join_of_isWord fun _ => isWord_of_mem_bucket hbucket
  simp [hlabel, Text.cutLine_eq_self hline, hwords]

theorem trim_renderGrouped {text : Text}
    (htokens : ∀ token ∈ (standard.arrange text).tokens, OpensNoComment token) :
    Text.trim (standard.arrange text).renderGrouped = (standard.arrange text).renderGrouped := by
  apply Text.trim_join
  intro row hrow
  obtain ⟨hne, hline, _⟩ := isLine_of_mem_groupedRows htokens row hrow
  exact ⟨hne, hline.trim_eq⟩

end Catalog

end ClassList
