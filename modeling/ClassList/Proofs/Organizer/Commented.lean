import ClassList.Proofs.Layout.Collapse
import ClassList.Proofs.Options.Validation
import ClassList.Proofs.Organizer.Settled

namespace ClassList

open Text (OpensNoComment blockOpener lineOpener)

namespace Call

/-- A call with an argument starts with its brace and the comment of that argument, and the quote
    of the argument stands on the line behind it. -/
theorem exists_render_eq (utility label classes : Text) (rest : List Section) :
    ∃ tail, (Call.mk utility (⟨some label, classes⟩ :: rest)).render =
      ('\x7b' :: utility ++ "(\n    ".toList) ++
        '/' :: '/' :: ((' ' :: label) ++ '\n' :: ("    \"".toList ++ tail)) := by
  let others := (rest.map argument).flatMap (",\n".toList ++ ·)
  refine ⟨Text.escape classes ++ '"' :: (others ++ "\n  )\x7d".toList), ?_⟩
  rw [render, List.map_cons, Text.intercalate_cons_eq_append_flatMap]
  simp [head, argument, others]

/-- What is left of a call when its comments are taken away still has two lines: the line feed
    behind the first label stands between the brace and the quote of the first argument. -/
theorem feed_mem_clean_render {utility label : Text} (hutility : '/' ∉ utility)
    (hlabel : '\n' ∉ label) (classes : Text) (rest : List Section) :
    '\n' ∈ Text.clean (Call.mk utility (⟨some label, classes⟩ :: rest)).render := by
  obtain ⟨tail, hrender⟩ := exists_render_eq utility label classes rest
  have hbefore : '/' ∉ '\x7b' :: utility ++ "(\n    ".toList := by simp [hutility]
  have hcomment : '\n' ∉ ' ' :: label := by simp [hlabel]
  rw [hrender, Text.clean, Text.stripComments_append hbefore, Text.stripComments_line,
    Text.afterLine_append hcomment (by simp), Text.stripComments_cons_of_ne (by decide),
    Text.stripComments_append (by decide), Text.trim_append_cons]
  · exact List.mem_append_right _ List.mem_cons_self
  · exact ⟨'\x7b', by simp, by decide⟩
  · exact ⟨'"', by simp, by decide⟩

end Call

namespace Catalog

/-- From two groups on there is a first section, and it is labelled. -/
theorem exists_writeCommented_eq {catalog : Catalog} {text : Text} (utility : Text)
    (hsize : 2 ≤ (catalog.arrange text).size) :
    ∃ label ∈ catalog.labels, ∃ classes rest, catalog.writeCommented utility text =
      (Call.mk utility (⟨some label, classes⟩ :: rest)).render := by
  rw [writeCommented_of_two_le_size utility hsize, Arrangement.sections]
  cases hbuckets : (catalog.arrange text).buckets with
  | nil => simp [Arrangement.size, hbuckets] at hsize
  | cons bucket rest =>
    have hbucket : bucket ∈ (catalog.arrange text).buckets := by simp [hbuckets]
    exact ⟨bucket.label, label_mem_labels hbucket, bucket.joined, _, rfl⟩

/-- A class list of at most one group, on one line and with single spaces. -/
structure Plain (catalog : Catalog) (text : Text) : Prop where
  spaced : Text.join ' ' (Text.words text) = text
  size_le_one : (catalog.arrange text).size ≤ 1

theorem Plain.feed_not_mem {catalog : Catalog} {text : Text} (hplain : catalog.Plain text) :
    '\n' ∉ text := by
  intro hfeed
  rw [← hplain.spaced] at hfeed
  rcases Text.mem_join hfeed with hspace | ⟨word, hword, hmem⟩
  · exact absurd hspace (by decide)
  · exact absurd ((Text.isWord_of_mem_words hword).2 '\n' hmem) (by decide)

/-- With comments, the texts that are written as they are are those of at most one group on one
    line. A call is none of them if no line comment opens in the text. -/
theorem writeCommented_eq_self_iff_plain {catalog : Catalog} {utility text : Text}
    (htrim : Text.trim text = text) (hline : ¬ lineOpener <:+: text) :
    text = [] ∨ catalog.writeCommented utility text = text ↔ catalog.Plain text := by
  constructor
  · intro hwritten
    by_cases hempty : text = []
    · subst hempty
      refine ⟨rfl, ?_⟩
      rw [size_arrange_eq_zero_iff.mpr Text.words_nil]
      exact Nat.zero_le 1
    have hwrite := hwritten.resolve_left hempty
    rcases Nat.eq_or_lt_of_le (catalog.size_arrange_pos htrim hempty) with hone | htwo
    · rw [writeCommented_of_size_eq_one utility hone.symm] at hwrite
      exact ⟨hwrite, Nat.le_of_eq hone.symm⟩
    · obtain ⟨label, _, classes, rest, hcall⟩ := exists_writeCommented_eq utility htwo
      obtain ⟨tail, hrender⟩ := Call.exists_render_eq utility label classes rest
      have hopener : lineOpener <:+: text := by
        rw [← hwrite, hcall, hrender]
        exact List.infix_append' _ lineOpener _
      exact absurd hopener hline
  · intro hplain
    rcases Nat.lt_or_eq_of_le hplain.size_le_one with hnone | hone
    · left
      rw [← hplain.spaced, size_arrange_eq_zero_iff.mp (Nat.lt_one_iff.mp hnone)]
      rfl
    · right
      rw [writeCommented_of_size_eq_one utility hone, hplain.spaced]

end Catalog

namespace Organizer

open Catalog (standard)

theorem fix_eq_none_iff_plain {options : Options} (hlayout : options.layout = .withComments)
    (value : Text) :
    (ofOptions options).fix value = none ↔ standard.Plain (Text.clean value) := by
  rw [fix_eq_none_iff, hlayout]
  exact Catalog.writeCommented_eq_self_iff_plain (Text.trim_clean value)
    (Text.lineOpener_not_isInfix_clean value)

theorem replacement_of_withComments {options : Options} (hlayout : options.layout = .withComments)
    {value : Text} {fix : Fix} (hfix : (ofOptions options).fix value = some fix) :
    Text.clean value ≠ [] ∧
      fix.replacement = standard.writeCommented options.utility.name (Text.clean value) := by
  obtain ⟨hne, rfl⟩ := Fix.eq_of_propose_eq_some hfix
  refine ⟨hne, ?_⟩
  simp [Fix.ofReplacement, hlayout, Catalog.write]

/-- A call is fixed again: cleaned of its labels it still stands on several lines. -/
theorem fix_replacement_ne_none_of_two_le {options : Options}
    (hlayout : options.layout = .withComments)
    (hname : Utility.isName options.utility.name = true) {value : Text} {fix : Fix}
    (hfix : (ofOptions options).fix value = some fix)
    (hsize : 2 ≤ (standard.arrange (Text.clean value)).size) :
    (ofOptions options).fix fix.replacement ≠ none := by
  obtain ⟨_, hreplacement⟩ := replacement_of_withComments hlayout hfix
  obtain ⟨label, hlabel, classes, rest, hcall⟩ :=
    Catalog.exists_writeCommented_eq options.utility.name hsize
  have hfeed : '\n' ∈ Text.clean fix.replacement := by
    rw [hreplacement, hcall]
    exact Call.feed_mem_clean_render
      (Utility.not_mem_of_completesPath (by decide) (by decide) hname)
      (Catalog.labelsAreLines_standard.isLine_label hlabel).feed_not_mem classes rest
  intro hnone
  exact ((fix_eq_none_iff_plain hlayout _).mp hnone).feed_not_mem hfeed

/-- The classes of a single group are written on one line, and stay as they are if no comment
    opens in them. -/
theorem fix_replacement_eq_none_of_one {options : Options}
    (hlayout : options.layout = .withComments) {value : Text} {fix : Fix}
    (hfix : (ofOptions options).fix value = some fix)
    (hsize : (standard.arrange (Text.clean value)).size = 1)
    (hblock : ¬ blockOpener <:+: Text.clean value) :
    (ofOptions options).fix fix.replacement = none := by
  have hwords : ∀ word ∈ Text.words (Text.clean value), Text.IsWord word :=
    fun _ => Text.isWord_of_mem_words
  have hline : Text.clean (Text.join ' ' (Text.words (Text.clean value))) =
      Text.join ' ' (Text.words (Text.clean value)) :=
    Text.clean_eq_self (Text.trim_join_of_isWord hwords)
      (.join (opensNoComment_of_mem_words_clean hblock))
  have hagain := Text.words_join_of_isWord hwords
  obtain ⟨_, hreplacement⟩ := replacement_of_withComments hlayout hfix
  rw [hreplacement, Catalog.writeCommented_of_size_eq_one _ hsize]
  apply (fix_eq_none_iff_plain hlayout _).mpr
  rw [hline]
  refine ⟨by rw [hagain], ?_⟩
  have harrange : standard.arrange (Text.join ' ' (Text.words (Text.clean value))) =
      standard.arrange (Text.clean value) := by
    apply Catalog.arrange_eq_of_words_eq_tokens
    rw [hagain, Catalog.tokens_arrange_of_size_le_one (Nat.le_of_eq hsize)]
  rw [harrange, hsize]

/-- Where fixing settles in the layout with comments. A value needs no fix exactly if its clean
    classes are of at most one group and on one line with single spaces. A fix of two or more
    groups writes a call, and the call needs a fix again; in the absence of block comments, the
    fixes that settle at once are exactly those of a single group. -/
theorem fix_settles_iff_of_withComments {options : Options} {organizer : Organizer}
    (hbuild : build options = .ok organizer) (hlayout : options.layout = .withComments) :
    (∀ value, organizer.fix value = none ↔ standard.Plain (Text.clean value)) ∧
    ∀ value fix, organizer.fix value = some fix →
      (2 ≤ (standard.arrange (Text.clean value)).size → organizer.fix fix.replacement ≠ none) ∧
      (¬ blockOpener <:+: Text.clean value →
        (organizer.fix fix.replacement = none ↔
          (standard.arrange (Text.clean value)).size = 1)) := by
  obtain ⟨hvalid, rfl⟩ := build_eq_ok_iff.mp hbuild
  obtain ⟨hname, _⟩ := Options.validate_eq_ok_iff.mp hvalid
  refine ⟨fix_eq_none_iff_plain hlayout, ?_⟩
  intro value fix hfix
  have hcall := fix_replacement_ne_none_of_two_le hlayout hname hfix
  refine ⟨hcall, ?_⟩
  intro hblock
  constructor
  · intro hnone
    obtain ⟨hne, _⟩ := replacement_of_withComments hlayout hfix
    rcases Nat.eq_or_lt_of_le (standard.size_arrange_pos (Text.trim_clean value) hne) with
      hone | htwo
    · exact hone.symm
    · exact absurd hnone (hcall htwo)
  · intro hone
    exact fix_replacement_eq_none_of_one hlayout hfix hone hblock

/-- A fix that writes a call, and one that only joins two spaces of a single group. -/
theorem fix_settles_iff_of_withComments_flex :
    build { choice := .always .withComments } =
      .ok (ofOptions { choice := .always .withComments }) ∧
    ({ choice := .always .withComments } : Options).layout = .withComments ∧
    (∃ fix, (ofOptions { choice := .always .withComments }).fix "z-1 flex".toList = some fix ∧
      2 ≤ (standard.arrange (Text.clean "z-1 flex".toList)).size ∧
      (ofOptions { choice := .always .withComments }).fix fix.replacement ≠ none) ∧
    ∃ fix, (ofOptions { choice := .always .withComments }).fix "flex  block".toList = some fix ∧
      ¬ blockOpener <:+: Text.clean "flex  block".toList ∧
      (ofOptions { choice := .always .withComments }).fix fix.replacement = none := by
  have hbuild : build { choice := .always .withComments } =
      .ok (ofOptions { choice := .always .withComments }) := rfl
  have hlayout : ({ choice := .always .withComments } : Options).layout = .withComments := rfl
  have hcall : (ofOptions { choice := .always .withComments }).fix "z-1 flex".toList =
      some ⟨("\x7bclsx(\n    // Layout\n    \"flex\",\n" ++
        "    // Coordinates\n    \"z-1\"\n  )\x7d").toList, true, true⟩ := by
    decide +kernel
  have hjoin : (ofOptions { choice := .always .withComments }).fix "flex  block".toList =
      some ⟨"flex block".toList, false, false⟩ := by
    decide +kernel
  have htwo : 2 ≤ (standard.arrange (Text.clean "z-1 flex".toList)).size := by decide +kernel
  have hone : (standard.arrange (Text.clean "flex  block".toList)).size = 1 := by decide +kernel
  have hblock : ¬ blockOpener <:+: Text.clean "flex  block".toList := by
    rw [← Text.occursIn_iff_isInfix]
    decide +kernel
  obtain ⟨_, hsettles⟩ := fix_settles_iff_of_withComments hbuild hlayout
  exact ⟨hbuild, hlayout, ⟨_, hcall, htwo, (hsettles _ _ hcall).1 htwo⟩,
    _, hjoin, hblock, ((hsettles _ _ hjoin).2 hblock).mpr hone⟩

/-- Not every fix with comments settles: the call of two groups is fixed again. -/
theorem exists_fix_of_withComments_not_settled :
    ∃ organizer fix,
      build { choice := .always .withComments } = .ok organizer ∧
      organizer.options.layout = .withComments ∧
      organizer.fix "z-1 flex".toList = some fix ∧
      organizer.fix fix.replacement ≠ none := by
  have htwo : 2 ≤ (standard.arrange (Text.clean "z-1 flex".toList)).size := by decide +kernel
  cases hfix : (ofOptions { choice := .always .withComments }).fix "z-1 flex".toList with
  | none =>
    have hplain := (fix_eq_none_iff_plain rfl "z-1 flex".toList).mp hfix
    exact absurd hplain.size_le_one (Nat.not_le_of_lt htwo)
  | some fix =>
    exact ⟨ofOptions { choice := .always .withComments }, fix, rfl, rfl, hfix,
      fix_replacement_ne_none_of_two_le rfl (by decide) hfix htwo⟩

end Organizer

end ClassList
