import ClassList.Arrangement.Sorting

namespace ClassList

/-- The tokens of a rank, in their order and as often as they occur. -/
def Catalog.ofRank (catalog : Catalog) (rank : Nat) (tokens : List Text) : List Text :=
  tokens.filter fun token => catalog.rank token = rank

namespace Catalog

@[simp] theorem ofRank_nil (catalog : Catalog) (rank : Nat) : catalog.ofRank rank [] = [] :=
  rfl

@[simp] theorem ofRank_append (catalog : Catalog) (rank : Nat) (before after : List Text) :
    catalog.ofRank rank (before ++ after) =
      catalog.ofRank rank before ++ catalog.ofRank rank after :=
  List.filter_append ..

theorem ofRank_cons (catalog : Catalog) (rank : Nat) (token : Text) (tokens : List Text) :
    catalog.ofRank rank (token :: tokens) =
      if catalog.rank token = rank then token :: catalog.ofRank rank tokens
      else catalog.ofRank rank tokens := by
  simp [ofRank, List.filter_cons]

@[simp] theorem mem_ofRank {catalog : Catalog} {rank : Nat} {tokens : List Text} {token : Text} :
    token ∈ catalog.ofRank rank tokens ↔ token ∈ tokens ∧ catalog.rank token = rank := by
  simp [ofRank]

end Catalog

namespace Sorting

/-- What the slots hold once a list of tokens has been sorted: at every position, and behind the
    last of them, the tokens of that rank. -/
def Holds (catalog : Catalog) (sorting : Sorting) (tokens : List Text) : Prop :=
  sorting.slots =
    (List.range (catalog.length + 1)).map fun position => catalog.ofRank position tokens

/-- The slot that takes a token is the one at its rank, whether a group accepts it or not. -/
@[simp] theorem slots_take (catalog : Catalog) (sorting : Sorting) (token : Text) :
    (take catalog sorting token).slots = push sorting.slots (catalog.rank token) token := by
  unfold take Catalog.rank
  cases catalog.rank? token with
  | none => rfl
  | some position => rfl

theorem holds_start (catalog : Catalog) : (start catalog).Holds catalog [] := by
  simp [Holds, start, List.map_const']

/-- One more token leaves every slot with the tokens of its rank. Its own slot exists, because no
    rank is behind the length of the catalogue. -/
theorem Holds.take {catalog : Catalog} {sorting : Sorting} {tokens : List Text}
    (hholds : sorting.Holds catalog tokens) (token : Text) :
    (Sorting.take catalog sorting token).Holds catalog (tokens ++ [token]) := by
  unfold Holds at hholds ⊢
  rw [slots_take, hholds, push]
  apply List.ext_getElem (by simp)
  intro position hposition _
  simp only [List.getElem_modify, List.getElem_map, List.getElem_range]
  by_cases hrank : catalog.rank token = position
  · simp [Catalog.ofRank_cons, hrank]
  · simp [Catalog.ofRank_cons, hrank]

theorem holds_foldl_take {catalog : Catalog} {sorting : Sorting} {before : List Text}
    (hholds : sorting.Holds catalog before) (tokens : List Text) :
    (tokens.foldl (Sorting.take catalog) sorting).Holds catalog (before ++ tokens) := by
  induction tokens generalizing sorting before with
  | nil => simpa using hholds
  | cons token rest ih =>
    have hnext := ih (hholds.take token)
    simpa only [List.foldl_cons, List.append_assoc, List.singleton_append] using hnext

end Sorting

namespace Catalog

theorem holds_sort (catalog : Catalog) (text : Text) :
    (catalog.sort text).Holds catalog (Text.words text) := by
  have h := Sorting.holds_foldl_take (Sorting.holds_start catalog) (Text.words text)
  simpa only [sort, List.nil_append] using h

/-- The ranks that occur among tokens, in increasing order. -/
def ranks (catalog : Catalog) (tokens : List Text) : List Nat :=
  (List.range (catalog.length + 1)).filter fun rank => !(catalog.ofRank rank tokens).isEmpty

@[simp] theorem mem_ranks {catalog : Catalog} {tokens : List Text} {rank : Nat} :
    rank ∈ catalog.ranks tokens ↔ ∃ token ∈ tokens, catalog.rank token = rank := by
  unfold ranks
  constructor
  · intro hrank
    have hne : catalog.ofRank rank tokens ≠ [] := by simpa using (List.mem_filter.mp hrank).2
    obtain ⟨token, htoken⟩ := List.exists_mem_of_ne_nil _ hne
    exact ⟨token, mem_ofRank.mp htoken⟩
  · rintro ⟨token, htoken, rfl⟩
    have hmem : token ∈ catalog.ofRank (catalog.rank token) tokens :=
      mem_ofRank.mpr ⟨htoken, rfl⟩
    have hbound : catalog.rank token < catalog.length + 1 :=
      Nat.lt_succ_of_le (catalog.rank_le_length token)
    exact List.mem_filter.mpr ⟨List.mem_range.mpr hbound, by simpa using List.ne_nil_of_mem hmem⟩

theorem rank_mem_ranks (catalog : Catalog) {tokens : List Text} {token : Text}
    (htoken : token ∈ tokens) : catalog.rank token ∈ catalog.ranks tokens :=
  mem_ranks.mpr ⟨token, htoken, rfl⟩

theorem pairwise_ranks (catalog : Catalog) (tokens : List Text) :
    (catalog.ranks tokens).Pairwise (· < ·) :=
  List.pairwise_lt_range.filter _

theorem nodup_ranks (catalog : Catalog) (tokens : List Text) : (catalog.ranks tokens).Nodup :=
  (catalog.pairwise_ranks tokens).imp Nat.ne_of_lt

/-- The bucket of a rank: the group at that position, if there is one, and the tokens. -/
def bucketOfRank (catalog : Catalog) (tokens : List Text) (rank : Nat) : Bucket :=
  ⟨catalog[rank]?, catalog.ofRank rank tokens⟩

/-- The buckets of a text are those of the ranks that occur in it. -/
theorem buckets_arrange (catalog : Catalog) (text : Text) :
    (catalog.arrange text).buckets =
      (catalog.ranks (Text.words text)).map (catalog.bucketOfRank (Text.words text)) := by
  have hslots : (catalog.sort text).slots = _ := catalog.holds_sort text
  have hbuckets : (catalog.sort text).slots.mapIdx
        (fun position tokens => Bucket.mk catalog[position]? tokens) =
      (List.range (catalog.length + 1)).map (catalog.bucketOfRank (Text.words text)) := by
    rw [hslots]
    apply List.ext_getElem (by simp)
    intro position _ _
    simp [bucketOfRank]
  simp only [arrange, Sorting.arrangement, Arrangement.ofBuckets]
  rw [hbuckets, List.filter_map]
  rfl

theorem size_arrange (catalog : Catalog) (text : Text) :
    (catalog.arrange text).size = (catalog.ranks (Text.words text)).length := by
  rw [Arrangement.size, buckets_arrange, List.length_map]

theorem label_mem_labels {catalog : Catalog} {text : Text} {bucket : Bucket}
    (hbucket : bucket ∈ (catalog.arrange text).buckets) : bucket.label ∈ catalog.labels := by
  rw [buckets_arrange] at hbucket
  obtain ⟨rank, _, rfl⟩ := List.mem_map.mp hbucket
  unfold bucketOfRank Bucket.label labels
  cases hgroup : catalog[rank]? with
  | none => exact List.mem_append_right _ (List.mem_singleton_self _)
  | some group =>
    exact List.mem_append_left _ (List.mem_map_of_mem (List.mem_of_getElem? hgroup))

end Catalog

end ClassList
