import ClassList.Proofs.Organizer.Settled

namespace ClassList.Organizer

open Catalog (standard)

/-- What is fixed on one line. A value needs no fix exactly if cleaning leaves nothing of it, or
    leaves words in the order of their ranks with one space between neighbours. Every other value
    is replaced by its words, stably sorted by rank, in plain text. -/
theorem fix_of_inline {options : Options} (hlayout : options.layout = .inline) (value : Text) :
    ((ofOptions options).fix value = none ↔
      Text.clean value = [] ∨
        Text.join ' ' (Text.words (Text.clean value)) = Text.clean value ∧
          (Text.words (Text.clean value)).Pairwise
            fun first second => standard.rank first ≤ standard.rank second) ∧
    ∀ fix, (ofOptions options).fix value = some fix →
      fix.replacement =
        Text.join ' ' ((Text.words (Text.clean value)).mergeSort
          fun first second => standard.rank first ≤ standard.rank second) ∧
      fix.expression = false ∧ fix.needsImport = false := by
  constructor
  · rw [fix_eq_none_iff, hlayout]
    exact or_congr_right Catalog.writeInline_eq_self_iff
  · intro fix hfix
    obtain ⟨_, rfl⟩ := Fix.eq_of_propose_eq_some hfix
    refine ⟨?_, ?_, ?_⟩
    · rw [hlayout]
      exact standard.writeInline_eq_join_sortByRank _
    · simp [Fix.ofReplacement, hlayout]
    · simp [Fix.ofReplacement, hlayout]

/-- Classes in order between comments, and classes in disorder around an em space and a line feed,
    one of them twice. -/
theorem fix_of_inline_em_space :
    ({} : Options).layout = .inline ∧
    (ofOptions {}).fix "/* a */ flex mt-4 // b".toList = none ∧
    ∃ fix, (ofOptions {}).fix "mt-4\u2003flex\nflex".toList = some fix ∧
      fix.replacement = "flex flex mt-4".toList ∧
      fix.expression = false ∧ fix.needsImport = false := by
  have hlayout : ({} : Options).layout = .inline := rfl
  have hclean : Text.clean "/* a */ flex mt-4 // b".toList = "flex mt-4".toList := by
    decide +kernel
  have hnone : (ofOptions {}).fix "/* a */ flex mt-4 // b".toList = none := by
    rw [(fix_of_inline hlayout _).1, hclean]
    exact .inr ⟨by decide, by decide +kernel⟩
  have hfix : (ofOptions {}).fix "mt-4\u2003flex\nflex".toList =
      some ⟨"flex flex mt-4".toList, false, false⟩ := by
    decide +kernel
  obtain ⟨_, hplain⟩ := (fix_of_inline hlayout _).2 _ hfix
  exact ⟨hlayout, hnone, _, hfix, rfl, hplain⟩

end ClassList.Organizer
