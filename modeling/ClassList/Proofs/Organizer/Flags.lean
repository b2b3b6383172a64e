import ClassList.Proofs.Layout.Collapse
import ClassList.Proofs.Options.Validation
import ClassList.Proofs.Organizer.Settled

namespace ClassList

namespace Call

theorem head_isPrefix_render (call : Call) : head call.utility <+: call.render := by
  rw [render, List.append_assoc, List.append_assoc]
  exact List.prefix_append _ _

theorem space_not_mem_head {utility : Text} (hname : Utility.isName utility = true) :
    ' ' ∉ head utility := by
  have hutility : ' ' ∉ utility := Utility.not_mem_of_completesPath (by decide) (by decide) hname
  simp [head, hutility]

end Call

namespace Fix

theorem expression_ofReplacement_iff {options : Options} {replacement : Text} :
    (ofReplacement options replacement).expression = true ↔
      options.layout = .withComments ∧ Call.head options.utility.name <+: replacement := by
  simp [ofReplacement, List.isPrefixOf_iff_prefix]

theorem needsImport_ofReplacement_iff {options : Options} {replacement : Text} :
    (ofReplacement options replacement).needsImport = true ↔
      (ofReplacement options replacement).expression = true ∧
        options.utility.imported = false := by
  simp [ofReplacement]

end Fix

/-- What is written with comments starts like a call if it is one. The classes of a single group
    start like a call if the first of them does, since the name of a utility holds no space. -/
theorem Catalog.head_isPrefix_writeCommented_iff {catalog : Catalog} {utility text : Text}
    (hname : Utility.isName utility = true) (htrim : Text.trim text = text) (hne : text ≠ []) :
    Call.head utility <+: catalog.writeCommented utility text ↔
      2 ≤ (catalog.arrange text).size ∨
        ∃ first ∈ (Text.words text).head?, Call.head utility <+: first := by
  rcases Nat.eq_or_lt_of_le (catalog.size_arrange_pos htrim hne) with hone | htwo
  · have hfew : ¬ 2 ≤ (catalog.arrange text).size := by omega
    rw [writeCommented_of_size_eq_one utility hone.symm, or_iff_right hfew]
    exact Text.isPrefix_join_iff (List.cons_ne_nil _ _) (Call.space_not_mem_head hname)
  · rw [writeCommented_of_two_le_size utility htwo]
    exact iff_of_true (Call.head_isPrefix_render ⟨utility, _⟩) (.inl htwo)

namespace Organizer

open Catalog (standard)

/-- What the flags of a fix say. The replacement is marked as an expression in the layout with
    comments only: always where the classes are of two or more groups, so that it is a call, and for
    plain classes of a single group exactly if the first of them starts like a call. It is marked as
    in need of an import if it is marked as an expression and the utility is not imported. -/
theorem fix_flags {options : Options} {organizer : Organizer}
    (hbuild : build options = .ok organizer) {value : Text} {fix : Fix}
    (hfix : organizer.fix value = some fix) :
    (fix.expression = true ↔
      options.layout = .withComments ∧
        (2 ≤ (standard.arrange (Text.clean value)).size ∨
          ∃ first ∈ (Text.words (Text.clean value)).head?,
            Call.head options.utility.name <+: first)) ∧
    (fix.needsImport = true ↔ fix.expression = true ∧ options.utility.imported = false) ∧
    (options.layout = .withComments →
      (2 ≤ (standard.arrange (Text.clean value)).size →
        fix.replacement =
          (Call.mk options.utility.name (standard.arrange (Text.clean value)).sections).render) ∧
      ((standard.arrange (Text.clean value)).size ≤ 1 →
        fix.replacement = Text.join ' ' (Text.words (Text.clean value)))) := by
  obtain ⟨hvalid, rfl⟩ := build_eq_ok_iff.mp hbuild
  obtain ⟨hname, _⟩ := Options.validate_eq_ok_iff.mp hvalid
  obtain ⟨hne, rfl⟩ := Fix.eq_of_propose_eq_some hfix
  have htrim := Text.trim_clean value
  refine ⟨?_, Fix.needsImport_ofReplacement_iff, ?_⟩
  · rw [Fix.expression_ofReplacement_iff, and_congr_right_iff]
    intro hlayout
    rw [hlayout]
    exact Catalog.head_isPrefix_writeCommented_iff hname htrim hne
  · intro hlayout
    rw [hlayout]
    constructor
    · exact Catalog.writeCommented_of_two_le_size _
    · intro hsize
      have hpos := standard.size_arrange_pos htrim hne
      exact Catalog.writeCommented_of_size_eq_one _ (Nat.le_antisymm hsize hpos)

/-- The call of two groups, and the classes of a single group as they are. -/
theorem fix_flags_call :
    build { choice := .always .withComments } =
      .ok (ofOptions { choice := .always .withComments }) ∧
    (∃ fix, (ofOptions { choice := .always .withComments }).fix "z-1 flex".toList = some fix ∧
      2 ≤ (standard.arrange (Text.clean "z-1 flex".toList)).size ∧
      fix.expression = true ∧ fix.needsImport = true) ∧
    ∃ fix, (ofOptions { choice := .always .withComments }).fix "flex  block".toList = some fix ∧
      (standard.arrange (Text.clean "flex  block".toList)).size ≤ 1 ∧
      fix.replacement = Text.join ' ' (Text.words (Text.clean "flex  block".toList)) := by
  have hbuild : build { choice := .always .withComments } =
      .ok (ofOptions { choice := .always .withComments }) := rfl
  have htwo : 2 ≤ (standard.arrange (Text.clean "z-1 flex".toList)).size := by decide +kernel
  have hone : (standard.arrange (Text.clean "flex  block".toList)).size ≤ 1 := by decide +kernel
  obtain ⟨call, hcall⟩ : ∃ fix,
      (ofOptions { choice := .always .withComments }).fix "z-1 flex".toList = some fix := by
    apply Option.isSome_iff_exists.mp
    decide +kernel
  obtain ⟨plain, hplain⟩ : ∃ fix,
      (ofOptions { choice := .always .withComments }).fix "flex  block".toList = some fix := by
    apply Option.isSome_iff_exists.mp
    decide +kernel
  obtain ⟨hexpression, himport, _⟩ := fix_flags hbuild hcall
  have hmarked : call.expression = true := hexpression.mpr ⟨rfl, .inl htwo⟩
  obtain ⟨_, _, hreplacement⟩ := fix_flags hbuild hplain
  exact ⟨hbuild, ⟨call, hcall, htwo, hmarked, himport.mpr ⟨hmarked, rfl⟩⟩, plain, hplain, hone,
    (hreplacement rfl).2 hone⟩

/-- A fix of plain classes that is marked as a call, since the first of them starts like one. -/
theorem exists_fix_of_one_group_marked_expression :
    ∃ organizer fix,
      build { choice := .always .withComments, utility := ⟨"cn".toList, none, false⟩ } =
        .ok organizer ∧
      organizer.fix "\x7bcn(mt-4  mb-2".toList = some fix ∧
      (standard.arrange (Text.clean "\x7bcn(mt-4  mb-2".toList)).size = 1 ∧
      fix.replacement = "\x7bcn(mt-4 mb-2".toList ∧
      fix.expression = true ∧ fix.needsImport = true := by
  have hfix : (ofOptions
      { choice := .always .withComments, utility := ⟨"cn".toList, none, false⟩ }).fix
        "\x7bcn(mt-4  mb-2".toList = some ⟨"\x7bcn(mt-4 mb-2".toList, true, true⟩ := by
    decide +kernel
  exact ⟨_, _, rfl, hfix, by decide +kernel, rfl, rfl, rfl⟩

end Organizer

end ClassList
