import ClassList.Pattern
import ClassList.Proofs.Text.Join
import Mathlib.Data.List.TakeWhile

namespace ClassList

/-- A text that holds a separator only at its end does not reach across a separator. -/
theorem Text.isInfix_append_cons_of_dropLast {inner before after : Text} {separator : Char}
    (hseparator : separator ∉ inner.dropLast) (h : inner <:+: before ++ separator :: after) :
    inner <:+: before ++ [separator] ∨ inner <:+: after := by
  rw [← List.singleton_append, ← List.append_assoc] at h
  rcases List.infix_append_iff.mp h with hbefore | hafter | ⟨left, right, rfl, hleft, hright⟩
  · exact .inl hbefore
  · exact .inr hafter
  by_cases hempty : right = []
  · subst hempty
    rw [List.append_nil]
    exact .inl hleft.isInfix
  -- The left half ends in the separator, and the right half makes that an inner place.
  rcases List.suffix_concat_iff.mp hleft with rfl | ⟨rest, rfl, _⟩
  · exact .inr hright.isInfix
  · rw [List.dropLast_append_of_ne_nil hempty] at hseparator
    exact absurd (by simp) hseparator

theorem colon_not_mem_utilityPart (token : Text) : ':' ∉ utilityPart token := by
  intro hmem
  have hcolon := List.mem_takeWhile_imp (List.mem_reverse.mp hmem)
  simp at hcolon

theorem utilityPart_eq_self {token : Text} (h : ':' ∉ token) : utilityPart token = token := by
  unfold utilityPart
  rw [List.takeWhile_eq_self_iff.mpr, List.reverse_reverse]
  intro c hc
  have hne : c ≠ ':' := by
    rintro rfl
    exact h (List.mem_reverse.mp hc)
  simpa using hne

theorem utilityPart_isSuffix (token : Text) : utilityPart token <:+ token := by
  have hprefix : token.reverse.takeWhile (· != ':') <+: token.reverse := List.takeWhile_prefix _
  simpa [utilityPart] using List.reverse_suffix.mpr hprefix

/-- The utility of a class name does not depend on the variants in front of it. -/
@[simp] theorem utilityPart_append_cons (variant token : Text) :
    utilityPart (variant ++ ':' :: token) = utilityPart token := by
  have hreverse : (variant ++ ':' :: token).reverse = token.reverse ++ ':' :: variant.reverse := by
    simp
  unfold utilityPart
  rw [hreverse, List.takeWhile_append]
  split
  · next hlength =>
    have hall := (List.takeWhile_prefix (· != ':')).eq_of_length hlength
    rw [hall, List.takeWhile_cons_of_neg (by simp), List.append_nil]
  · rfl

namespace Pattern

theorem accepts_of_family {pattern : Pattern} (hkind : pattern.kind = .family) {token : Text} :
    pattern.accepts token = true ↔ pattern.text <:+: token := by
  unfold accepts
  rw [hkind]
  exact Text.occursIn_iff_isInfix

theorem accepts_of_single {pattern : Pattern} (hkind : pattern.kind = .single) {token : Text} :
    pattern.accepts token = true ↔ token = pattern.text ∨ utilityPart token = pattern.text := by
  unfold accepts
  rw [hkind]
  simp

/-- The text of a pattern ends in a hyphen or a colon exactly if the pattern names a family. -/
theorem kind_eq_family_iff {pattern : Pattern} :
    pattern.kind = .family ↔
      pattern.text.getLast? = some '-' ∨ pattern.text.getLast? = some ':' := by
  unfold kind
  split
  · next hlast => simp [hlast]
  · next hlast => simp [hlast]
  · next hhyphen hcolon => simpa using ⟨hhyphen, hcolon⟩

/-- A pattern stands in every token that it accepts. -/
theorem text_isInfix_of_accepts {pattern : Pattern} {token : Text}
    (h : pattern.accepts token = true) : pattern.text <:+: token := by
  cases hkind : pattern.kind with
  | family => exact (accepts_of_family hkind).mp h
  | single =>
    rcases (accepts_of_single hkind).mp h with hwhole | hutility
    · exact hwhole ▸ List.infix_refl token
    · exact hutility ▸ (utilityPart_isSuffix token).isInfix

@[simp] theorem accepts_text (pattern : Pattern) : pattern.accepts pattern.text = true := by
  cases hkind : pattern.kind with
  | family => exact (accepts_of_family hkind).mpr (List.infix_refl _)
  | single => exact (accepts_of_single hkind).mpr (.inl rfl)

/-- What accepts the text of a pattern accepts all that the pattern does. The empty pattern is
    left out: it accepts a text that ends in a colon, but not what has more behind the colon. -/
theorem accepts_trans {first second : Pattern} (hne : first.text ≠ []) {token : Text}
    (hfirst : first.accepts second.text = true) (hsecond : second.accepts token = true) :
    first.accepts token = true := by
  cases hkind : first.kind with
  | family =>
    have hinside := (accepts_of_family hkind).mp hfirst
    exact (accepts_of_family hkind).mpr (hinside.trans (text_isInfix_of_accepts hsecond))
  | single =>
    rw [accepts_of_single hkind] at hfirst ⊢
    rcases hfirst with hwhole | hutility
    · have hsame : second = first := by
        cases first
        cases second
        exact congrArg mk hwhole
      rw [← accepts_of_single hkind, ← hsame]
      exact hsecond
    cases hkind_second : second.kind with
    | single =>
      rcases (accepts_of_single hkind_second).mp hsecond with htoken | htoken
      · rw [htoken]
        exact .inr hutility
      · rw [← htoken, utilityPart_eq_self (colon_not_mem_utilityPart token)] at hutility
        exact .inr hutility
    | family =>
      -- The utility of a family ends as the family does, so it is no single class.
      have hsuffix : first.text <:+ second.text := hutility ▸ utilityPart_isSuffix second.text
      have hlast : first.text.getLast? = second.text.getLast? := by
        obtain ⟨front, hfront⟩ := hsuffix
        rw [← hfront, List.getLast?_append, List.getLast?_eq_some_getLast hne, Option.some_or]
      rw [kind_eq_family_iff, ← hlast, ← kind_eq_family_iff, hkind] at hkind_second
      cases hkind_second

/-- A colon stands in the text of the pattern at most at its end. -/
def ColonCloses (pattern : Pattern) : Prop :=
  ':' ∉ pattern.text.dropLast

theorem ColonCloses.colon_not_mem_of_single {pattern : Pattern} (hcolon : pattern.ColonCloses)
    (hkind : pattern.kind = .single) : ':' ∉ pattern.text := by
  intro hmem
  have hne : pattern.text ≠ [] := List.ne_nil_of_mem hmem
  rw [← List.dropLast_concat_getLast hne] at hmem
  rcases List.mem_append.mp hmem with hinner | hlast
  · exact hcolon hinner
  · have hfamily : pattern.kind = .family := by
      rw [kind_eq_family_iff, List.getLast?_eq_some_getLast hne, ← List.mem_singleton.mp hlast]
      exact .inr rfl
    rw [hfamily] at hkind
    cases hkind

/-- Behind a variant, a token is accepted as it is without, or because a family stands in the
    variant with its colon. -/
theorem ColonCloses.accepts_append_cons {pattern : Pattern} (hcolon : pattern.ColonCloses)
    (variant token : Text) :
    pattern.accepts (variant ++ ':' :: token) = true ↔
      pattern.accepts token = true ∨
        pattern.kind = .family ∧ pattern.text <:+: variant ++ [':'] := by
  cases hkind : pattern.kind with
  | family =>
    rw [accepts_of_family hkind, accepts_of_family hkind]
    constructor
    · intro h
      rcases Text.isInfix_append_cons_of_dropLast hcolon h with hvariant | htoken
      · exact .inr ⟨rfl, hvariant⟩
      · exact .inl htoken
    · rintro (htoken | ⟨_, hvariant⟩)
      · exact htoken.trans ⟨variant ++ [':'], [], by simp⟩
      · exact hvariant.trans ⟨[], token, by simp⟩
  | single =>
    have hnone := hcolon.colon_not_mem_of_single hkind
    rw [accepts_of_single hkind, accepts_of_single hkind, utilityPart_append_cons]
    constructor
    · rintro (hwhole | hutility)
      · rw [← hwhole] at hnone
        exact absurd (by simp) hnone
      · exact .inl (.inr hutility)
    · rintro ((hwhole | hutility) | ⟨hfamily, _⟩)
      · rw [← hwhole] at hnone
        rw [utilityPart_eq_self hnone]
        exact .inr hwhole
      · exact .inr hutility
      · cases hfamily

end Pattern

end ClassList
