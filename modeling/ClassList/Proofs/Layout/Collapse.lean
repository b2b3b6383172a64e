import ClassList.Layout
import ClassList.Proofs.Arrangement.Inline

namespace ClassList

theorem Call.renderCollapsed_of_two_le {call : Call} (h : 2 ≤ call.sections.length) :
    call.renderCollapsed = some call.render := by
  unfold renderCollapsed
  split
  · next hnil => simp [hnil] at h
  · next hone => simp [hone] at h
  · rfl

theorem Arrangement.length_sections (arrangement : Arrangement) :
    arrangement.sections.length = arrangement.size :=
  List.length_map _

namespace Catalog

theorem size_arrange_eq_zero_iff {catalog : Catalog} {text : Text} :
    (catalog.arrange text).size = 0 ↔ Text.words text = [] := by
  rw [size_arrange, List.length_eq_zero_iff]
  constructor
  · intro hranks
    apply List.eq_nil_iff_forall_not_mem.mpr
    intro token htoken
    have hmem := catalog.rank_mem_ranks htoken
    rw [hranks] at hmem
    cases hmem
  · intro hwords
    rw [hwords]
    apply List.eq_nil_iff_forall_not_mem.mpr
    intro rank hrank
    obtain ⟨token, htoken, _⟩ := mem_ranks.mp hrank
    cases htoken

theorem size_arrange_pos (catalog : Catalog) {text : Text} (htrim : Text.trim text = text)
    (hne : text ≠ []) : 0 < (catalog.arrange text).size := by
  apply Nat.pos_of_ne_zero
  intro hsize
  obtain ⟨c, hc, hblank⟩ := Text.exists_not_blank_of_trim_eq htrim hne
  rw [Text.words_eq_nil_iff.mp (size_arrange_eq_zero_iff.mp hsize) c hc] at hblank
  cases hblank

/-- A class list of a single rank is in order as it stands. -/
theorem tokens_arrange_of_size_le_one {catalog : Catalog} {text : Text}
    (hsize : (catalog.arrange text).size ≤ 1) :
    (catalog.arrange text).tokens = Text.words text := by
  rw [size_arrange] at hsize
  rw [tokens_arrange_eq_sortByRank, sortByRank_eq_self_iff]
  apply List.pairwise_of_forall_mem_list
  intro first hfirst second hsecond
  have hfirst_rank := catalog.rank_mem_ranks hfirst
  have hsecond_rank := catalog.rank_mem_ranks hsecond
  match hranks : catalog.ranks (Text.words text) with
  | [] =>
    rw [hranks] at hfirst_rank
    cases hfirst_rank
  | [rank] =>
    rw [hranks, List.mem_singleton] at hfirst_rank hsecond_rank
    omega
  | _ :: _ :: _ =>
    rw [hranks] at hsize
    simp at hsize

theorem writeCommented_of_two_le_size {catalog : Catalog} {text : Text} (utility : Text)
    (hsize : 2 ≤ (catalog.arrange text).size) :
    catalog.writeCommented utility text =
      (Call.mk utility (catalog.arrange text).sections).render := by
  rw [← Arrangement.length_sections] at hsize
  rw [writeCommented, Call.renderCollapsed_of_two_le hsize]
  rfl

theorem writeCommented_of_size_eq_one {catalog : Catalog} {text : Text} (utility : Text)
    (hsize : (catalog.arrange text).size = 1) :
    catalog.writeCommented utility text = Text.join ' ' (Text.words text) := by
  have htokens := tokens_arrange_of_size_le_one (Nat.le_of_eq hsize)
  obtain ⟨bucket, hbucket⟩ := List.length_eq_one_iff.mp hsize
  rw [Arrangement.tokens, hbucket, List.flatMap_singleton] at htokens
  rw [writeCommented, Arrangement.sections, hbucket, ← htokens]
  rfl

end Catalog

end ClassList
