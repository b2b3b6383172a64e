import ClassList.Proofs.Arrangement.Slots

namespace ClassList.Catalog

/-- Tokens are in order when none stands behind a token of a higher rank. -/
def InOrder (catalog : Catalog) (tokens : List Text) : Prop :=
  tokens.Pairwise fun first second => catalog.rank first ≤ catalog.rank second

theorem mem_of_ofRank_eq {catalog : Catalog} {xs ys : List Text}
    (hranks : ∀ rank ≤ catalog.length, catalog.ofRank rank xs = catalog.ofRank rank ys)
    {token : Text} (htoken : token ∈ xs) : token ∈ ys := by
  have hmem : token ∈ catalog.ofRank (catalog.rank token) xs := mem_ofRank.mpr ⟨htoken, rfl⟩
  rw [hranks _ (catalog.rank_le_length token)] at hmem
  exact (mem_ofRank.mp hmem).1

theorem InOrder.rank_head_le {catalog : Catalog} {head : Text} {tail : List Text}
    (horder : catalog.InOrder (head :: tail)) {token : Text} (htoken : token ∈ head :: tail) :
    catalog.rank head ≤ catalog.rank token := by
  rcases List.mem_cons.mp htoken with rfl | htail
  · exact Nat.le_refl _
  · exact (List.pairwise_cons.mp horder).1 token htail

/-- Tokens in order are determined by the tokens of every rank. The first tokens of two such lists
    have the lowest rank of all, so both are the first token of that rank. -/
theorem InOrder.eq_of_ofRank_eq {catalog : Catalog} {xs ys : List Text}
    (hxs : catalog.InOrder xs) (hys : catalog.InOrder ys)
    (hranks : ∀ rank ≤ catalog.length, catalog.ofRank rank xs = catalog.ofRank rank ys) :
    xs = ys := by
  have hback : ∀ rank ≤ catalog.length, catalog.ofRank rank ys = catalog.ofRank rank xs :=
    fun rank hbound => (hranks rank hbound).symm
  induction xs generalizing ys with
  | nil =>
    cases ys with
    | nil => rfl
    | cons y ys => cases mem_of_ofRank_eq hback (List.mem_cons_self (a := y))
  | cons x xs ih =>
    cases ys with
    | nil => cases mem_of_ofRank_eq hranks (List.mem_cons_self (a := x))
    | cons y ys =>
      have hle := hxs.rank_head_le (mem_of_ofRank_eq hback (List.mem_cons_self (a := y)))
      have hge := hys.rank_head_le (mem_of_ofRank_eq hranks (List.mem_cons_self (a := x)))
      have hrank : catalog.rank y = catalog.rank x := Nat.le_antisymm hge hle
      simp only [ofRank_cons, hrank] at hranks
      have hfirst := hranks _ (catalog.rank_le_length x)
      rw [if_pos rfl, if_pos rfl] at hfirst
      have hhead : x = y := (List.cons.inj hfirst).1
      have hrest : ∀ rank ≤ catalog.length, catalog.ofRank rank xs = catalog.ofRank rank ys := by
        intro rank hbound
        have h := hranks rank hbound
        split at h
        · exact (List.cons.inj h).2
        · exact h
      have htail : xs = ys := ih (List.pairwise_cons.mp hxs).2 (List.pairwise_cons.mp hys).2 hrest
        fun rank hbound => (hrest rank hbound).symm
      rw [hhead, htail]

theorem tokens_arrange (catalog : Catalog) (text : Text) :
    (catalog.arrange text).tokens =
      (catalog.ranks (Text.words text)).flatMap fun rank =>
        catalog.ofRank rank (Text.words text) := by
  rw [Arrangement.tokens, buckets_arrange, List.flatMap_map]
  rfl

theorem inOrder_tokens_arrange (catalog : Catalog) (text : Text) :
    catalog.InOrder (catalog.arrange text).tokens := by
  rw [tokens_arrange]
  apply List.pairwise_flatMap.mpr
  constructor
  · intro rank _
    apply List.pairwise_of_forall_mem_list
    intro first hfirst second hsecond
    exact Nat.le_of_eq ((mem_ofRank.mp hfirst).2.trans (mem_ofRank.mp hsecond).2.symm)
  · apply (catalog.pairwise_ranks (Text.words text)).imp
    intro low high hlt first hfirst second hsecond
    rw [(mem_ofRank.mp hfirst).2, (mem_ofRank.mp hsecond).2]
    exact Nat.le_of_lt hlt

theorem ofRank_ofRank (catalog : Catalog) (rank other : Nat) (tokens : List Text) :
    catalog.ofRank rank (catalog.ofRank other tokens) =
      if other = rank then catalog.ofRank rank tokens else [] := by
  by_cases h : other = rank
  · rw [if_pos h, h]
    simp [ofRank]
  · rw [if_neg h]
    apply List.eq_nil_iff_forall_not_mem.mpr
    intro token htoken
    obtain ⟨hother, hrank⟩ := mem_ofRank.mp htoken
    exact h ((mem_ofRank.mp hother).2.symm.trans hrank)

theorem ofRank_flatMap_ofRank (catalog : Catalog) (rank : Nat) (tokens : List Text)
    {ranks : List Nat} (hnodup : ranks.Nodup) :
    catalog.ofRank rank (ranks.flatMap fun other => catalog.ofRank other tokens) =
      if rank ∈ ranks then catalog.ofRank rank tokens else [] := by
  induction ranks with
  | nil => simp
  | cons other ranks ih =>
    obtain ⟨hfresh, hnodup⟩ := List.nodup_cons.mp hnodup
    by_cases h : other = rank
    · subst h
      simp [ofRank_ofRank, ih hnodup, hfresh]
    · simp [ofRank_ofRank, ih hnodup, h, Ne.symm h]

@[simp] theorem ofRank_tokens_arrange (catalog : Catalog) (rank : Nat) (text : Text) :
    catalog.ofRank rank (catalog.arrange text).tokens =
      catalog.ofRank rank (Text.words text) := by
  rw [tokens_arrange, ofRank_flatMap_ofRank catalog rank _ (catalog.nodup_ranks _)]
  split
  · rfl
  · next hrank =>
    apply Eq.symm
    apply List.eq_nil_iff_forall_not_mem.mpr
    intro token htoken
    exact hrank (mem_ranks.mpr ⟨token, mem_ofRank.mp htoken⟩)

/-- Tokens sorted by rank. Tokens of one rank stay in their order. -/
def sortByRank (catalog : Catalog) (tokens : List Text) : List Text :=
  tokens.mergeSort fun first second => catalog.rank first ≤ catalog.rank second

private theorem rank_trans (catalog : Catalog) (first second third : Text)
    (h : decide (catalog.rank first ≤ catalog.rank second) = true)
    (h' : decide (catalog.rank second ≤ catalog.rank third) = true) :
    decide (catalog.rank first ≤ catalog.rank third) = true := by
  simp only [decide_eq_true_eq] at h h' ⊢
  exact Nat.le_trans h h'

private theorem rank_total (catalog : Catalog) (first second : Text) :
    (decide (catalog.rank first ≤ catalog.rank second) ||
      decide (catalog.rank second ≤ catalog.rank first)) = true := by
  simpa using Nat.le_total (catalog.rank first) (catalog.rank second)

theorem inOrder_sortByRank (catalog : Catalog) (tokens : List Text) :
    catalog.InOrder (catalog.sortByRank tokens) := by
  have h := List.pairwise_mergeSort catalog.rank_trans catalog.rank_total tokens
  exact h.imp of_decide_eq_true

/-- Sorting by rank keeps the tokens of every rank in their order. They are in order among
    themselves, so the sort leaves them as a sublist, and it cannot add one to them. -/
@[simp] theorem ofRank_sortByRank (catalog : Catalog) (rank : Nat) (tokens : List Text) :
    catalog.ofRank rank (catalog.sortByRank tokens) = catalog.ofRank rank tokens := by
  have hperm : (catalog.sortByRank tokens).Perm tokens := List.mergeSort_perm tokens _
  have horder : (catalog.ofRank rank tokens).Pairwise fun first second =>
      decide (catalog.rank first ≤ catalog.rank second) = true := by
    apply List.pairwise_of_forall_mem_list
    intro first hfirst second hsecond
    simp [(mem_ofRank.mp hfirst).2, (mem_ofRank.mp hsecond).2]
  have hkept : (catalog.ofRank rank tokens).Sublist (catalog.sortByRank tokens) :=
    List.sublist_mergeSort catalog.rank_trans catalog.rank_total horder List.filter_sublist
  have hsub := hkept.filter fun token => catalog.rank token = rank
  have hlength := (hperm.filter fun token => catalog.rank token = rank).length_eq
  have heq := hsub.eq_of_length (by rw [hlength]; simp [ofRank])
  simpa [ofRank] using heq.symm

theorem sortByRank_eq_self_iff {catalog : Catalog} {tokens : List Text} :
    catalog.sortByRank tokens = tokens ↔ catalog.InOrder tokens := by
  constructor
  · intro hsorted
    rw [← hsorted]
    exact catalog.inOrder_sortByRank tokens
  · intro horder
    exact List.mergeSort_of_pairwise (horder.imp fun hle => decide_eq_true hle)

theorem tokens_arrange_eq_sortByRank (catalog : Catalog) (text : Text) :
    (catalog.arrange text).tokens = catalog.sortByRank (Text.words text) := by
  apply (catalog.inOrder_tokens_arrange text).eq_of_ofRank_eq (catalog.inOrder_sortByRank _)
  simp

theorem lt_length_of_mem_dropLast_ranks {catalog : Catalog} {tokens : List Text} {rank : Nat}
    (hrank : rank ∈ (catalog.ranks tokens).dropLast) : rank < catalog.length := by
  have hne : catalog.ranks tokens ≠ [] := List.ne_nil_of_mem (List.dropLast_subset _ hrank)
  have hincreasing := catalog.pairwise_ranks tokens
  rw [← List.dropLast_concat_getLast hne] at hincreasing
  have hlt := (List.pairwise_append.mp hincreasing).2.2 rank hrank _ (List.mem_singleton_self _)
  obtain ⟨token, _, hlast⟩ := mem_ranks.mp (List.getLast_mem hne)
  rw [← hlast] at hlt
  exact Nat.lt_of_lt_of_le hlt (catalog.rank_le_length token)

theorem isOther_of_mem_dropLast_buckets {catalog : Catalog} {text : Text} {bucket : Bucket}
    (hbucket : bucket ∈ (catalog.arrange text).buckets.dropLast) : bucket.isOther = false := by
  rw [buckets_arrange, ← List.map_dropLast] at hbucket
  obtain ⟨rank, hrank, rfl⟩ := List.mem_map.mp hbucket
  simp [Bucket.isOther, bucketOfRank, lt_length_of_mem_dropLast_ranks hrank]

/-- Arranging is stable bucketing by rank. A text has one bucket for each rank that occurs among
    its words, in increasing order. The bucket of a rank has the group at that position and
    exactly the words of that rank, in the order of the text. Unclassified words have no group,
    and their bucket is the last. All buckets together hold the words stably sorted by rank. -/
theorem arrange_stable_bucketing (catalog : Catalog) (text : Text) :
    ∃ ranks : List Nat,
      ranks.Pairwise (· < ·) ∧
      (∀ rank, rank ∈ ranks ↔ ∃ token ∈ Text.words text, catalog.rank token = rank) ∧
      (catalog.arrange text).buckets =
        ranks.map (fun rank =>
          ⟨catalog[rank]?, (Text.words text).filter fun token => catalog.rank token = rank⟩) ∧
      (∀ rank ∈ ranks, catalog[rank]? = none ↔ rank = catalog.length) ∧
      (∀ bucket ∈ (catalog.arrange text).buckets.dropLast, bucket.isOther = false) ∧
      (catalog.arrange text).tokens =
        (Text.words text).mergeSort
          (fun first second => catalog.rank first ≤ catalog.rank second) ∧
      (catalog.arrange text).tokens.Perm (Text.words text) := by
  refine ⟨catalog.ranks (Text.words text), catalog.pairwise_ranks _, fun _ => mem_ranks,
    catalog.buckets_arrange text, ?_, fun _ => isOther_of_mem_dropLast_buckets,
    catalog.tokens_arrange_eq_sortByRank text, ?_⟩
  · intro rank hrank
    obtain ⟨token, _, rfl⟩ := mem_ranks.mp hrank
    have hbound := catalog.rank_le_length token
    rw [List.getElem?_eq_none_iff]
    omega
  · rw [tokens_arrange_eq_sortByRank]
    exact List.mergeSort_perm _ _

end ClassList.Catalog
