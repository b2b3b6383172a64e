import ClassList.Catalog.Standard
import ClassList.Proofs.Pattern

namespace ClassList

/-- The first place where one of two tests holds is the smaller one of their first places. -/
theorem findIdx?_or_eq_merge {α : Type} {either first second : α → Bool} {xs : List α}
    (heither : ∀ x ∈ xs, either x = (first x || second x)) :
    xs.findIdx? either = Option.merge min (xs.findIdx? first) (xs.findIdx? second) := by
  induction xs with
  | nil => rfl
  | cons x xs ih =>
    obtain ⟨hx, hxs⟩ := List.forall_mem_cons.mp heither
    rw [List.findIdx?_cons, List.findIdx?_cons, List.findIdx?_cons, ih hxs, hx]
    cases first x with
    | true => cases second x <;> cases xs.findIdx? second <;> simp [Option.merge]
    | false =>
      cases second x <;> cases xs.findIdx? first <;> cases xs.findIdx? second <;>
        simp [Option.merge]

namespace Group

/-- Whether a family of the group stands in a part of a class name. -/
def hasFamilyIn (group : Group) (part : Text) : Bool :=
  group.patterns.any fun pattern => pattern.kind = .family && pattern.text.occursIn part

theorem accepts_append_cons {group : Group}
    (hcolons : ∀ pattern ∈ group.patterns, pattern.ColonCloses) (variant token : Text) :
    group.accepts (variant ++ ':' :: token) =
      (group.accepts token || group.hasFamilyIn (variant ++ [':'])) := by
  rw [Bool.eq_iff_iff, Bool.or_eq_true]
  simp only [accepts, hasFamilyIn, List.any_eq_true, Bool.and_eq_true, decide_eq_true_eq,
    Text.occursIn_iff_isInfix, ← exists_or, ← and_or_left]
  apply exists_congr
  intro pattern
  apply and_congr_right
  intro hpattern
  exact (hcolons pattern hpattern).accepts_append_cons variant token

end Group

namespace Catalog

/-- A catalogue in whose patterns a colon stands only at the end. -/
def ColonsClose (catalog : Catalog) : Prop :=
  ∀ group ∈ catalog, ∀ pattern ∈ group.patterns, pattern.ColonCloses

/-- The standard patterns are not empty, and hold a colon only at their end. -/
theorem patterns_standard :
    ∀ group ∈ standard, ∀ pattern ∈ group.patterns, pattern.text ≠ [] ∧ pattern.ColonCloses := by
  unfold Pattern.ColonCloses
  decide +kernel

theorem colonsClose_standard : standard.ColonsClose :=
  fun group hgroup pattern hpattern => (patterns_standard group hgroup pattern hpattern).2

/-- The position of the first group with a family in a part of a class name. -/
def familyRank? (catalog : Catalog) (part : Text) : Option Nat :=
  catalog.findIdx? fun group => group.hasFamilyIn part

/-- A class name behind a chain of variants, each of them closed by a colon. -/
def withVariants (variants : List Text) (token : Text) : Text :=
  variants.foldr (fun variant rest => variant ++ ':' :: rest) token

theorem ColonsClose.rank?_append_cons {catalog : Catalog} (hcolons : catalog.ColonsClose)
    (variant token : Text) :
    catalog.rank? (variant ++ ':' :: token) =
      Option.merge min (catalog.rank? token) (catalog.familyRank? (variant ++ [':'])) := by
  apply findIdx?_or_eq_merge
  intro group hgroup
  exact Group.accepts_append_cons (hcolons group hgroup) variant token

/-- Variants move a token to an earlier group or leave it where it is. -/
theorem ColonsClose.rank?_withVariants {catalog : Catalog} (hcolons : catalog.ColonsClose)
    (variants : List Text) {token : Text} {rank : Nat} (hrank : catalog.rank? token = some rank) :
    ∃ earlier ≤ rank, catalog.rank? (withVariants variants token) = some earlier := by
  induction variants with
  | nil => exact ⟨rank, Nat.le_refl rank, hrank⟩
  | cons variant variants ih =>
    obtain ⟨earlier, hle, hearlier⟩ := ih
    change ∃ first ≤ rank,
      catalog.rank? (variant ++ ':' :: withVariants variants token) = some first
    rw [hcolons.rank?_append_cons, hearlier]
    cases catalog.familyRank? (variant ++ [':']) with
    | none => exact ⟨earlier, hle, rfl⟩
    | some family => exact ⟨min earlier family, (Nat.min_le_left _ _).trans hle, rfl⟩

/-- Variants decompose. Where a colon only ends patterns, as in the standard catalogue, a token
    behind a variant belongs to the first of two groups: the one that it belongs to without the
    variant, and the first one with a family in the variant and its colon. So no chain of variants
    moves a token to a later group, and none makes it unclassified. -/
theorem variants_decompose :
    standard.ColonsClose ∧
    ∀ catalog : Catalog, catalog.ColonsClose →
      (∀ variant token, catalog.rank? (variant ++ ':' :: token) =
        Option.merge min (catalog.rank? token) (catalog.familyRank? (variant ++ [':']))) ∧
      ∀ variants token rank, catalog.rank? token = some rank →
        ∃ earlier ≤ rank, catalog.rank? (withVariants variants token) = some earlier := by
  refine ⟨colonsClose_standard, ?_⟩
  intro catalog hcolons
  refine ⟨hcolons.rank?_append_cons, ?_⟩
  intro variants token rank hrank
  exact hcolons.rank?_withVariants variants hrank

/-- The hyphen of a variant takes its token to an earlier group, also from inside a chain that
    holds an empty variant. -/
theorem variants_decompose_top_grow :
    standard.ColonsClose ∧ standard.rank? "grow".toList = some 4 ∧
    standard.rank? ("top-1".toList ++ ':' :: "grow".toList) = some 2 ∧
    ∃ earlier ≤ 4, standard.rank? (withVariants ["hover".toList, [], "top-1".toList]
      "grow".toList) = some earlier := by
  have hrank : standard.rank? "grow".toList = some 4 := by decide +kernel
  have hfamily : standard.familyRank? ("top-1".toList ++ [':']) = some 2 := by decide +kernel
  obtain ⟨hvariant, hchain⟩ := variants_decompose.2 standard colonsClose_standard
  refine ⟨colonsClose_standard, hrank, ?_, hchain _ _ _ hrank⟩
  rw [hvariant, hrank, hfamily]
  rfl

end Catalog

end ClassList
