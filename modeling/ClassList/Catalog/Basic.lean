import ClassList.Group

namespace ClassList

/-- The groups that tokens are sorted into. A token belongs to the first group that accepts it,
    so the position of a group is its precedence. -/
abbrev Catalog := List Group

/-- The label of tokens that belong to no group. -/
def otherLabel : Text :=
  "Other".toList

namespace Catalog

/-- The position of the first group that accepts a token, if there is one. -/
def rank? (catalog : Catalog) (token : Text) : Option Nat :=
  catalog.findIdx? fun group => group.accepts token

/-- The position of the first group that accepts a token. A token that no group accepts ranks
    behind all of them, at the length of the catalogue. -/
def rank (catalog : Catalog) (token : Text) : Nat :=
  (catalog.rank? token).getD catalog.length

/-- The first group that accepts a token. -/
def classify (catalog : Catalog) (token : Text) : Option Group :=
  (catalog.rank? token).bind fun index => catalog[index]?

/-- The first group with a label. -/
def named? (catalog : Catalog) (label : Text) : Option Group :=
  catalog.find? fun group => group.label == label

/-- The groups of a tier, in order of precedence. -/
def inTier (catalog : Catalog) (tier : Tier) : List Group :=
  catalog.filter fun group => group.tier = tier

/-- The labels in order of precedence, with the label of unclassified tokens at the end. -/
def labels (catalog : Catalog) : List Text :=
  catalog.map Group.label ++ [otherLabel]

/-- An unclassified token counts as accepted behind the last group. -/
theorem rank_eq_findIdx (catalog : Catalog) (token : Text) :
    catalog.rank token = catalog.findIdx fun group => group.accepts token := by
  unfold rank rank?
  rw [List.findIdx_eq_getD_findIdx?]

theorem rank_le_length (catalog : Catalog) (token : Text) :
    catalog.rank token ≤ catalog.length := by
  rw [rank_eq_findIdx]
  exact List.findIdx_le_length

/-- A token that a group accepts belongs to this group or to an earlier one. -/
theorem exists_rank?_of_accepts {catalog : Catalog} {position : Nat} {group : Group}
    (hgroup : catalog[position]? = some group) {token : Text}
    (haccepts : group.accepts token = true) :
    ∃ rank ≤ position, catalog.rank? token = some rank := by
  cases hrank : catalog.rank? token with
  | none =>
    have hnone := List.findIdx?_eq_none_iff.mp hrank group (List.mem_of_getElem? hgroup)
    rw [haccepts] at hnone
    cases hnone
  | some rank =>
    refine ⟨rank, ?_, rfl⟩
    obtain ⟨_, _, hearlier⟩ := List.findIdx?_eq_some_iff_getElem.mp hrank
    obtain ⟨hbound, hget⟩ := List.getElem?_eq_some_iff.mp hgroup
    apply Nat.le_of_not_lt
    intro hlt
    exact hearlier position hlt (hget ▸ haccepts)

theorem classify_eq_find? (catalog : Catalog) (token : Text) :
    catalog.classify token = catalog.find? fun group => group.accepts token :=
  List.find?_eq_bind_findIdx?_getElem?.symm

@[simp] theorem classify_eq_none_iff {catalog : Catalog} {token : Text} :
    catalog.classify token = none ↔ catalog.rank? token = none := by
  rw [classify_eq_find?, rank?, List.find?_eq_none, List.findIdx?_eq_none_iff]
  simp

/-- There is no group at the rank of an unclassified token. -/
@[simp] theorem getElem?_rank (catalog : Catalog) (token : Text) :
    catalog[catalog.rank token]? = catalog.classify token := by
  unfold rank classify
  cases catalog.rank? token with
  | none => exact List.getElem?_eq_none (Nat.le_refl _)
  | some position => rfl

/-- A token is classified as a group that accepts it. -/
theorem accepts_of_classify_eq {catalog : Catalog} {token : Text} {group : Group}
    (hclassify : catalog.classify token = some group) : group.accepts token = true := by
  rw [classify_eq_find?] at hclassify
  have haccepts := List.find?_some hclassify
  exact haccepts

theorem rank_le_of_classify_eq {catalog : Catalog} {token other : Text}
    (hclassify : catalog.classify token = catalog.classify other) :
    catalog.rank token ≤ catalog.rank other := by
  have hother := catalog.getElem?_rank other
  cases hgroup : catalog.classify other with
  | none =>
    rw [hgroup] at hother
    exact Nat.le_trans (catalog.rank_le_length token) (List.getElem?_eq_none_iff.mp hother)
  | some group =>
    rw [hgroup] at hother hclassify
    obtain ⟨first, hle, hfirst⟩ :=
      exists_rank?_of_accepts hother (accepts_of_classify_eq hclassify)
    have hrank : catalog.rank token = first := by
      rw [rank, hfirst]
      rfl
    rw [hrank]
    exact hle

/-- The rank of a token and its group determine each other. -/
theorem rank_eq_rank_iff {catalog : Catalog} {token other : Text} :
    catalog.rank token = catalog.rank other ↔
      catalog.classify token = catalog.classify other := by
  constructor
  · intro hrank
    rw [← getElem?_rank, ← getElem?_rank, hrank]
  · intro hclassify
    exact Nat.le_antisymm (rank_le_of_classify_eq hclassify)
      (rank_le_of_classify_eq hclassify.symm)

end Catalog

end ClassList
