import ClassList.Proofs.Arrangement.StableOrder
import Mathlib.Data.List.Nodup

namespace ClassList

/-- The bucket of the unclassified tokens, if there is one. -/
def Arrangement.other? (arrangement : Arrangement) : Option Bucket :=
  arrangement.buckets.find? Bucket.isOther

namespace Catalog

/-- The tokens that are classified as a group, or, without a group, are unclassified. -/
def classifiedAs (catalog : Catalog) (group? : Option Group) (tokens : List Text) : List Text :=
  tokens.filter fun token => catalog.classify token = group?

@[simp] theorem mem_classifiedAs {catalog : Catalog} {group? : Option Group} {tokens : List Text}
    {token : Text} :
    token ∈ catalog.classifiedAs group? tokens ↔
      token ∈ tokens ∧ catalog.classify token = group? := by
  simp [classifiedAs]

/-- What the tokens of a list are classified as, in order of precedence and each only once. -/
def groupsOf (catalog : Catalog) (tokens : List Text) : List (Option Group) :=
  (catalog.ranks tokens).map fun rank => catalog[rank]?

@[simp] theorem mem_groupsOf {catalog : Catalog} {tokens : List Text} {group? : Option Group} :
    group? ∈ catalog.groupsOf tokens ↔ ∃ token ∈ tokens, catalog.classify token = group? := by
  unfold groupsOf
  constructor
  · intro hgroup
    obtain ⟨rank, hrank, rfl⟩ := List.mem_map.mp hgroup
    obtain ⟨token, htoken, rfl⟩ := mem_ranks.mp hrank
    exact ⟨token, htoken, (catalog.getElem?_rank token).symm⟩
  · rintro ⟨token, htoken, rfl⟩
    exact List.mem_map.mpr
      ⟨catalog.rank token, mem_ranks.mpr ⟨token, htoken, rfl⟩, catalog.getElem?_rank token⟩

/-- Tokens of two ranks are not classified alike, so a group is met at one rank only. -/
theorem nodup_groupsOf (catalog : Catalog) (tokens : List Text) :
    (catalog.groupsOf tokens).Nodup := by
  apply List.Nodup.map_on
  · intro first hfirst second hsecond hgroup
    obtain ⟨token, _, rfl⟩ := mem_ranks.mp hfirst
    obtain ⟨other, _, rfl⟩ := mem_ranks.mp hsecond
    rw [getElem?_rank, getElem?_rank] at hgroup
    exact rank_eq_rank_iff.mpr hgroup
  · exact catalog.nodup_ranks tokens

theorem ofRank_eq_classifiedAs {catalog : Catalog} {tokens : List Text} {rank : Nat}
    (hrank : rank ∈ catalog.ranks tokens) :
    catalog.ofRank rank tokens = catalog.classifiedAs catalog[rank]? tokens := by
  obtain ⟨token, _, rfl⟩ := mem_ranks.mp hrank
  simp [ofRank, classifiedAs, rank_eq_rank_iff]

/-- The buckets of a text are those of the groups of its tokens. -/
theorem buckets_arrange_eq_map_groupsOf (catalog : Catalog) (text : Text) :
    (catalog.arrange text).buckets =
      (catalog.groupsOf (Text.words text)).map fun group? =>
        ⟨group?, catalog.classifiedAs group? (Text.words text)⟩ := by
  rw [buckets_arrange, groupsOf, List.map_map]
  apply List.map_congr_left
  intro rank hrank
  rw [bucketOfRank, ofRank_eq_classifiedAs hrank]
  rfl

theorem eq_of_mem_buckets_of_isOther {catalog : Catalog} {text : Text} {bucket : Bucket}
    (hbucket : bucket ∈ (catalog.arrange text).buckets) (hother : bucket.isOther = true) :
    bucket = ⟨none, catalog.classifiedAs none (Text.words text)⟩ := by
  rw [buckets_arrange_eq_map_groupsOf] at hbucket
  obtain ⟨group?, _, rfl⟩ := List.mem_map.mp hbucket
  obtain rfl : group? = none := Option.isNone_iff_eq_none.mp hother
  rfl

/-- The bucket without a group holds the unclassified tokens, and is only missing if there are
    none. -/
theorem tokens_other? (catalog : Catalog) (text : Text) :
    (catalog.arrange text).other?.elim [] Bucket.tokens =
      catalog.classifiedAs none (Text.words text) := by
  cases hother : (catalog.arrange text).other? with
  | some bucket =>
    have hbucket := eq_of_mem_buckets_of_isOther (List.mem_of_find?_eq_some hother)
      (List.find?_some hother)
    rw [hbucket]
    rfl
  | none =>
    apply Eq.symm
    apply List.eq_nil_iff_forall_not_mem.mpr
    intro token htoken
    have hgroup : none ∈ catalog.groupsOf (Text.words text) :=
      mem_groupsOf.mpr ⟨token, mem_classifiedAs.mp htoken⟩
    have hbucket : ⟨none, catalog.classifiedAs none (Text.words text)⟩ ∈
        (catalog.arrange text).buckets := by
      rw [buckets_arrange_eq_map_groupsOf]
      exact List.mem_map.mpr ⟨none, hgroup, rfl⟩
    exact List.find?_eq_none.mp hother _ hbucket rfl

/-- The bucket without a group stands behind all others. -/
theorem exists_buckets_eq_append_other? (catalog : Catalog) (text : Text) :
    ∃ classified : List Bucket,
      (catalog.arrange text).buckets = classified ++ (catalog.arrange text).other?.toList ∧
      ∀ bucket ∈ classified, bucket.isOther = false := by
  have hinit : ∀ bucket ∈ (catalog.arrange text).buckets.dropLast, bucket.isOther = false :=
    fun _ => isOther_of_mem_dropLast_buckets
  unfold Arrangement.other?
  rcases List.eq_nil_or_concat' (catalog.arrange text).buckets with hnone | ⟨init, last, hlast⟩
  · rw [hnone]
    exact ⟨[], rfl, by simp⟩
  · rw [hlast, List.dropLast_concat] at hinit
    have hskip : init.find? Bucket.isOther = none := by
      apply List.find?_eq_none.mpr
      intro bucket hbucket
      simp [hinit bucket hbucket]
    rw [hlast, List.find?_append, hskip, Option.none_or]
    cases hother : last.isOther with
    | true => exact ⟨init, by simp [hother], hinit⟩
    | false =>
      refine ⟨init ++ [last], by simp [hother], ?_⟩
      intro bucket hbucket
      rcases List.mem_append.mp hbucket with hmem | hmem
      · exact hinit bucket hmem
      · rw [List.mem_singleton.mp hmem, hother]

end Catalog

end ClassList
