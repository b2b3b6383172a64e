import ClassList.Organizer
import ClassList.Proofs.Layout.Grouped
import ClassList.Proofs.Text.Cleaning

namespace ClassList

open Text (OpensNoComment blockOpener)

namespace Fix

/-- What an organized value is compared with. Grouped lines keep their labels, which cleaning
    would take away. -/
def current (layout : Layout) (value : Text) : Text :=
  match layout with
  | .multiline => Text.trim value
  | _ => Text.clean value

/-- The fix that a replacement makes. -/
def ofReplacement (options : Options) (replacement : Text) : Fix :=
  let expression :=
    options.layout = .withComments && (Call.head options.utility.name).isPrefixOf replacement
  ⟨replacement, expression, expression && !options.utility.imported⟩

/-- A value is fixed exactly if it has classes and these are not what they would be organized as. -/
theorem propose_eq (options : Options) (organize : Text → Text) (value : Text) :
    propose options organize value =
      if Text.clean value = [] ∨ organize (Text.clean value) = current options.layout value
      then none
      else some (ofReplacement options (organize (Text.clean value))) := by
  by_cases hempty : Text.clean value = []
  · simp [propose, hempty]
  · simp only [propose, List.isEmpty_iff, hempty, if_false, false_or]
    rfl

theorem propose_eq_none_iff {options : Options} {organize : Text → Text} {value : Text} :
    propose options organize value = none ↔
      Text.clean value = [] ∨ organize (Text.clean value) = current options.layout value := by
  rw [propose_eq]
  split
  · next h => simp [h]
  · next h => simp [h]

theorem eq_of_propose_eq_some {options : Options} {organize : Text → Text} {value : Text}
    {fix : Fix} (hfix : propose options organize value = some fix) :
    Text.clean value ≠ [] ∧ fix = ofReplacement options (organize (Text.clean value)) := by
  rw [propose_eq] at hfix
  split at hfix
  · cases hfix
  · next h =>
    cases hfix
    exact ⟨fun hempty => h (.inl hempty), rfl⟩

end Fix

namespace Catalog

theorem clean_writeInline {catalog : Catalog} {text : Text}
    (htokens : ∀ token ∈ Text.words text, OpensNoComment token) :
    Text.clean (catalog.writeInline text) = catalog.writeInline text := by
  rw [writeInline_eq_join]
  apply Text.clean_eq_self
  · exact Text.trim_join_of_isWord fun _ => isWord_of_mem_tokens_arrange
  · exact .join fun token htoken => htokens token (mem_words_of_mem_tokens_arrange htoken)

end Catalog

namespace Organizer

theorem fix_eq_none_iff (options : Options) (value : Text) :
    (ofOptions options).fix value = none ↔
      Text.clean value = [] ∨
        Catalog.standard.write options.layout options.utility.name (Text.clean value) =
          Fix.current options.layout value :=
  Fix.propose_eq_none_iff

/-- On one line, what is written is clean and in order. -/
theorem fix_organize_of_inline {options : Options} (hlayout : options.layout = .inline)
    {text : Text} (htokens : ∀ token ∈ Text.words text, OpensNoComment token) :
    (ofOptions options).fix (Catalog.standard.writeInline text) = none := by
  have hclean : Text.clean (Catalog.standard.writeInline text) =
      Catalog.standard.writeInline text :=
    Catalog.clean_writeInline htokens
  have hagain : Catalog.standard.arrange (Catalog.standard.writeInline text) =
      Catalog.standard.arrange text :=
    Catalog.arrange_eq_of_words_eq_tokens (Catalog.standard.words_writeInline text)
  rw [fix_eq_none_iff, hlayout]
  right
  change Catalog.standard.writeInline (Text.clean _) = Text.clean _
  rw [hclean, Catalog.writeInline, hagain]
  rfl

/-- As grouped lines, what is written has its labels taken away before it is organized again, and
    it is compared with its labels. -/
theorem fix_organize_of_multiline {options : Options} (hlayout : options.layout = .multiline)
    {text : Text} (htokens : ∀ token ∈ Text.words text, OpensNoComment token) :
    (ofOptions options).fix (Catalog.standard.writeGrouped text) = none := by
  have harranged : ∀ token ∈ (Catalog.standard.arrange text).tokens, OpensNoComment token :=
    fun token htoken => htokens token (Catalog.mem_words_of_mem_tokens_arrange htoken)
  have hagain :
      Catalog.standard.arrange (Text.clean (Catalog.standard.arrange text).renderGrouped) =
        Catalog.standard.arrange text :=
    Catalog.arrange_eq_of_words_eq_tokens (Catalog.words_clean_renderGrouped harranged)
  rw [fix_eq_none_iff, hlayout]
  right
  change (Catalog.standard.arrange (Text.clean (Catalog.standard.arrange text).renderGrouped)
    ).renderGrouped = Text.trim (Catalog.standard.arrange text).renderGrouped
  rw [hagain, Catalog.trim_renderGrouped harranged]

@[simp] theorem organize_ofOptions (options : Options) (text : Text) :
    (ofOptions options).organize text =
      Catalog.standard.write options.layout options.utility.name text :=
  rfl

/-- Cleaning what was written leaves the tokens of the text, sorted by group. -/
theorem words_clean_organize {options : Options}
    (hlayout : options.layout = .inline ∨ options.layout = .multiline) {text : Text}
    (htokens : ∀ token ∈ Text.words text, OpensNoComment token) :
    Text.words (Text.clean ((ofOptions options).organize text)) =
      (Catalog.standard.arrange text).tokens := by
  rcases hlayout with hlayout | hlayout
  · rw [organize_ofOptions, hlayout]
    change Text.words (Text.clean (Catalog.standard.writeInline text)) = _
    rw [Catalog.clean_writeInline htokens, Catalog.words_writeInline]
  · rw [organize_ofOptions, hlayout]
    exact Catalog.words_clean_renderGrouped fun token htoken =>
      htokens token (Catalog.mem_words_of_mem_tokens_arrange htoken)

theorem fix_organize_eq_none {options : Options}
    (hlayout : options.layout = .inline ∨ options.layout = .multiline) {text : Text}
    (htokens : ∀ token ∈ Text.words text, OpensNoComment token) :
    (ofOptions options).fix ((ofOptions options).organize text) = none := by
  rcases hlayout with hlayout | hlayout
  · rw [organize_ofOptions, hlayout]
    exact fix_organize_of_inline hlayout htokens
  · rw [organize_ofOptions, hlayout]
    exact fix_organize_of_multiline hlayout htokens

/-- No line comment opens in a word of a clean value, and no block comment does if none opens in
    the value. -/
theorem opensNoComment_of_mem_words_clean {value : Text}
    (hblock : ¬ blockOpener <:+: Text.clean value) :
    ∀ token ∈ Text.words (Text.clean value), OpensNoComment token := by
  intro token htoken
  have hclean : OpensNoComment (Text.clean value) :=
    ⟨Text.lineOpener_not_isInfix_clean value, hblock⟩
  exact hclean.of_isInfix (Text.isInfix_of_mem_words htoken)

/-- On one line and as grouped lines, fixing settles at once. What an organizer of such a layout
    writes needs no fix, if no token opens a comment. A fix keeps the classes, sorted by group, and
    leaves a value that needs no fix, if no block comment opens in the clean value, whatever
    comments have been cleaned away. The utility and the component play no part in it, and need
    not have been checked. -/
theorem fix_settles_of_inline_or_multiline {options : Options}
    (hlayout : options.layout = .inline ∨ options.layout = .multiline) :
    (∀ text, (∀ token ∈ Text.words text, OpensNoComment token) →
      (ofOptions options).fix ((ofOptions options).organize text) = none) ∧
    ∀ value fix, ¬ blockOpener <:+: Text.clean value →
      (ofOptions options).fix value = some fix →
      Text.words (Text.clean fix.replacement) =
        (Catalog.standard.arrange (Text.clean value)).tokens ∧
      (ofOptions options).fix fix.replacement = none := by
  constructor
  · intro text htokens
    exact fix_organize_eq_none hlayout htokens
  · intro value fix hblock hfix
    obtain ⟨_, rfl⟩ := Fix.eq_of_propose_eq_some hfix
    have htokens := opensNoComment_of_mem_words_clean hblock
    exact ⟨words_clean_organize hlayout htokens, fix_organize_eq_none hlayout htokens⟩

/-- Grouped lines under stale labels. Their fix settles, and so does a class list in the wrong
    order. -/
theorem fix_settles_stale_labels :
    (({ choice := .always .multiline } : Options).layout = .inline ∨
      ({ choice := .always .multiline } : Options).layout = .multiline) ∧
    (∀ token ∈ Text.words "z-1 flex".toList, OpensNoComment token) ∧
    (ofOptions { choice := .always .multiline }).fix
      ((ofOptions { choice := .always .multiline }).organize "z-1 flex".toList) = none ∧
    ¬ blockOpener <:+: Text.clean "// Layout\nz-1\n// Gap\nflex".toList ∧
    ∃ fix,
      (ofOptions { choice := .always .multiline }).fix
        "// Layout\nz-1\n// Gap\nflex".toList = some fix ∧
      fix.replacement = "// Layout\nflex\n// Coordinates\nz-1".toList ∧
      (ofOptions { choice := .always .multiline }).fix fix.replacement = none := by
  have hlayout : ({ choice := .always .multiline } : Options).layout = .inline ∨
      ({ choice := .always .multiline } : Options).layout = .multiline := .inr rfl
  have htokens : ∀ token ∈ Text.words "z-1 flex".toList, OpensNoComment token := by
    have hall : (Text.words "z-1 flex".toList).all (fun token => !token.contains '/') = true := by
      decide
    intro token htoken
    have hslash : '/' ∉ token := by simpa using List.all_eq_true.mp hall token htoken
    exact ⟨fun hopener => hslash (hopener.subset (by decide)),
      fun hopener => hslash (hopener.subset (by decide))⟩
  have hblock : ¬ blockOpener <:+: Text.clean "// Layout\nz-1\n// Gap\nflex".toList := by
    rw [← Text.occursIn_iff_isInfix]
    decide +kernel
  have hfix : (ofOptions { choice := .always .multiline }).fix
      "// Layout\nz-1\n// Gap\nflex".toList =
        some ⟨"// Layout\nflex\n// Coordinates\nz-1".toList, false, false⟩ := by
    decide +kernel
  obtain ⟨horganized, hreplaced⟩ := fix_settles_of_inline_or_multiline hlayout
  obtain ⟨_, hsettled⟩ := hreplaced _ _ hblock hfix
  exact ⟨hlayout, htokens, horganized _ htokens, hblock, _, hfix, rfl, hsettled⟩

end Organizer

end ClassList
