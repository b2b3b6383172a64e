import ClassList.Proofs.Arrangement.Groups
import Mathlib.Data.List.Perm.Basic

namespace ClassList

/-- Where at most one member passes a test, the search finds this member. -/
theorem find?_eq_some_iff_of_unique {α : Type} {p : α → Bool} {xs : List α}
    (hunique : ∀ x ∈ xs, ∀ y ∈ xs, p x = true → p y = true → x = y) {x : α} :
    xs.find? p = some x ↔ x ∈ xs ∧ p x = true := by
  constructor
  · intro hfind
    exact ⟨List.mem_of_find?_eq_some hfind, List.find?_some hfind⟩
  · rintro ⟨hx, hpx⟩
    obtain ⟨y, hfind⟩ := Option.isSome_iff_exists.mp (List.find?_isSome.mpr ⟨x, hx, hpx⟩)
    have hy : y ∈ xs := List.mem_of_find?_eq_some hfind
    rw [hfind, hunique y hy x hx (List.find?_some hfind) hpx]

/-- So the order of the members does not matter to the search. -/
theorem find?_eq_of_perm {α : Type} {p : α → Bool} {xs ys : List α} (hperm : xs.Perm ys)
    (hunique : ∀ x ∈ xs, ∀ y ∈ xs, p x = true → p y = true → x = y) : xs.find? p = ys.find? p := by
  have hunique' : ∀ y ∈ ys, ∀ z ∈ ys, p y = true → p z = true → y = z := by
    simpa only [hperm.mem_iff] using hunique
  apply Option.ext
  intro x
  rw [find?_eq_some_iff_of_unique hunique, find?_eq_some_iff_of_unique hunique', hperm.mem_iff]

namespace Catalog

/-- A token that no two different groups accept. The same group may stand in the catalogue more than
    once. -/
def Unambiguous (catalog : Catalog) (token : Text) : Prop :=
  ∀ group ∈ catalog, ∀ other ∈ catalog,
    group.accepts token = true → other.accepts token = true → group = other

theorem unambiguous_of_countP_le_one {catalog : Catalog} {token : Text}
    (hcount : catalog.countP (fun group => group.accepts token) ≤ 1) :
    catalog.Unambiguous token := by
  intro group hgroup other hother haccepts haccepts'
  have hmem : group ∈ catalog.filter fun group => group.accepts token :=
    List.mem_filter.mpr ⟨hgroup, haccepts⟩
  have hmem' : other ∈ catalog.filter fun group => group.accepts token :=
    List.mem_filter.mpr ⟨hother, haccepts'⟩
  rw [List.countP_eq_length_filter] at hcount
  match hfilter : catalog.filter fun group => group.accepts token with
  | [] =>
    rw [hfilter] at hmem
    cases hmem
  | [only] =>
    rw [hfilter, List.mem_singleton] at hmem hmem'
    rw [hmem, hmem']
  | _ :: _ :: _ =>
    rw [hfilter] at hcount
    simp at hcount

theorem Unambiguous.classify_eq_of_perm {catalog other : Catalog} {token : Text}
    (htoken : catalog.Unambiguous token) (hperm : catalog.Perm other) :
    other.classify token = catalog.classify token := by
  rw [classify_eq_find?, classify_eq_find?]
  exact (find?_eq_of_perm hperm htoken).symm

/-- A group that accepts a token is what the token is classified as, once the group is moved to the
    front. -/
theorem classify_cons_erase {catalog : Catalog} {token : Text} {group : Group}
    (haccepts : group.accepts token = true) :
    classify (group :: catalog.erase group) token = some group := by
  rw [classify_eq_find?]
  exact List.find?_cons_of_pos haccepts

/-- The tokens that every order of the groups classifies alike are the unambiguous ones: of two
    groups that accept another token, each can be moved to the front. -/
theorem unambiguous_iff_classify_eq {catalog : Catalog} {token : Text} :
    catalog.Unambiguous token ↔
      ∀ other : Catalog, catalog.Perm other → other.classify token = catalog.classify token := by
  constructor
  · intro htoken other hperm
    exact htoken.classify_eq_of_perm hperm
  · intro halike group hgroup other hother haccepts haccepts'
    have hfirst := halike _ (List.perm_cons_erase hgroup)
    have hsecond := halike _ (List.perm_cons_erase hother)
    rw [classify_cons_erase haccepts] at hfirst
    rw [classify_cons_erase haccepts', ← hfirst] at hsecond
    exact (Option.some.inj hsecond).symm

section

variable {catalog other : Catalog} {text : Text}
  (halike : ∀ token ∈ Text.words text, other.classify token = catalog.classify token)
include halike

/-- Catalogues that classify the tokens of a text alike arrange it into the same buckets. -/
theorem buckets_arrange_perm :
    (catalog.arrange text).buckets.Perm (other.arrange text).buckets := by
  have hgroups : (catalog.groupsOf (Text.words text)).Perm (other.groupsOf (Text.words text)) := by
    apply (List.perm_ext_iff_of_nodup (nodup_groupsOf ..) (nodup_groupsOf ..)).mpr
    intro group?
    rw [mem_groupsOf, mem_groupsOf]
    apply exists_congr
    intro token
    apply and_congr_right
    intro htoken
    rw [halike token htoken]
  have hbuckets : ∀ group?, catalog.classifiedAs group? (Text.words text) =
      other.classifiedAs group? (Text.words text) := by
    intro group?
    apply List.filter_congr
    intro token htoken
    rw [halike token htoken]
  rw [buckets_arrange_eq_map_groupsOf, buckets_arrange_eq_map_groupsOf]
  simp only [hbuckets]
  exact hgroups.map _

theorem other?_arrange_eq : (catalog.arrange text).other? = (other.arrange text).other? := by
  apply find?_eq_of_perm (buckets_arrange_perm halike)
  intro first hfirst second hsecond hother hother'
  rw [eq_of_mem_buckets_of_isOther hfirst hother, eq_of_mem_buckets_of_isOther hsecond hother']

end

/-- The order of the groups matters for ambiguous tokens only. A token that at most one position of
    a catalogue accepts is unambiguous, and the unambiguous tokens are exactly those that belong to
    the same group, or to none, in every order of the groups. A text of such tokens is arranged into
    the same buckets up to their order, and the bucket of the unclassified tokens, if there are any,
    stands behind all others in every order. -/
theorem order_decides_ambiguous_tokens (catalog : Catalog) :
    (∀ token, catalog.countP (fun group => group.accepts token) ≤ 1 →
      catalog.Unambiguous token) ∧
    (∀ token, catalog.Unambiguous token ↔
      ∀ other : Catalog, catalog.Perm other → other.classify token = catalog.classify token) ∧
    ∀ (other : Catalog) (text : Text), catalog.Perm other →
      (∀ token ∈ Text.words text, catalog.Unambiguous token) →
      (∀ token ∈ Text.words text, other.classify token = catalog.classify token) ∧
      (other.arrange text).other? = (catalog.arrange text).other? ∧
      ∃ first second : List Bucket,
        (catalog.arrange text).buckets = first ++ (catalog.arrange text).other?.toList ∧
        (other.arrange text).buckets = second ++ (catalog.arrange text).other?.toList ∧
        first.Perm second ∧ ∀ bucket ∈ first, bucket.isOther = false := by
  refine ⟨fun _ => unambiguous_of_countP_le_one, fun _ => unambiguous_iff_classify_eq, ?_⟩
  intro other text hperm htokens
  have halike : ∀ token ∈ Text.words text, other.classify token = catalog.classify token :=
    fun token htoken => (htokens token htoken).classify_eq_of_perm hperm
  have hother := other?_arrange_eq halike
  obtain ⟨first, hfirst, hclassified⟩ := catalog.exists_buckets_eq_append_other? text
  obtain ⟨second, hsecond, _⟩ := other.exists_buckets_eq_append_other? text
  rw [← hother] at hsecond
  have hbuckets := buckets_arrange_perm halike
  rw [hfirst, hsecond, List.perm_append_right_iff] at hbuckets
  exact ⟨halike, hother.symm, first, second, hfirst, hsecond, hbuckets, hclassified⟩

/-- Two groups share a label, and the second of them moves to the front. The buckets of the text
    change places, except for the last. -/
theorem order_decides_ambiguous_tokens_moved :
    let layout : Group := ⟨"Layout".toList, .utility, [⟨"flex".toList⟩, ⟨"block".toList⟩]⟩
    let padding : Group := ⟨"Spacing".toList, .utility, [⟨"p-".toList⟩]⟩
    let margin : Group := ⟨"Spacing".toList, .utility, [⟨"m-".toList⟩]⟩
    let catalog : Catalog := [layout, padding, margin]
    let other : Catalog := [margin, layout, padding]
    let text := "m-1 x p-2 flex y m-2 block".toList
    (∀ token ∈ Text.words text, catalog.countP (fun group => group.accepts token) ≤ 1) ∧
    catalog.Perm other ∧
    (∀ token ∈ Text.words text, other.classify token = catalog.classify token) ∧
    ∃ first second : List Bucket,
      (catalog.arrange text).buckets = first ++ [⟨none, ["x".toList, "y".toList]⟩] ∧
      (other.arrange text).buckets = second ++ [⟨none, ["x".toList, "y".toList]⟩] ∧
      first.Perm second := by
  intro layout padding margin catalog other text
  have hcount : ∀ token ∈ Text.words text,
      catalog.countP (fun group => group.accepts token) ≤ 1 := by decide +kernel
  have hperm : catalog.Perm other := by decide +kernel
  obtain ⟨hunambiguous, _, horder⟩ := order_decides_ambiguous_tokens catalog
  obtain ⟨halike, _, first, second, hfirst, hsecond, hbuckets, _⟩ :=
    horder other text hperm fun token htoken => hunambiguous token (hcount token htoken)
  have hother : (catalog.arrange text).other? = some ⟨none, ["x".toList, "y".toList]⟩ := by
    decide +kernel
  rw [hother] at hfirst hsecond
  exact ⟨hcount, hperm, halike, first, second, hfirst, hsecond, hbuckets⟩

end Catalog

end ClassList
