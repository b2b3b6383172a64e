import ClassList.Text.Blank
import Mathlib.Data.List.DropRight

namespace ClassList.Text

theorem isBlank_of_mem_head?_trimStart {text : Text} {c : Char}
    (h : c ∈ (trimStart text).head?) : isBlank c = false := by
  have hhead := List.head?_dropWhile_not isBlank text
  rw [← trimStart, h] at hhead
  exact hhead

theorem trimStart_eq_self_iff {text : Text} :
    trimStart text = text ↔ ∀ c ∈ text.head?, isBlank c = false := by
  constructor
  · intro htrim c hc
    rw [← htrim] at hc
    exact isBlank_of_mem_head?_trimStart hc
  · intro hhead
    cases text with
    | nil => rfl
    | cons c cs =>
      rw [trimStart, List.dropWhile_cons_of_neg]
      simp [hhead c rfl]

@[simp] theorem reverse_trimEnd (text : Text) : (trimEnd text).reverse = trimStart text.reverse :=
  List.reverse_reverse _

theorem isBlank_of_mem_getLast?_trimEnd {text : Text} {c : Char}
    (h : c ∈ (trimEnd text).getLast?) : isBlank c = false := by
  rw [← List.head?_reverse, reverse_trimEnd] at h
  exact isBlank_of_mem_head?_trimStart h

theorem trimEnd_eq_self_iff {text : Text} :
    trimEnd text = text ↔ ∀ c ∈ text.getLast?, isBlank c = false := by
  rw [← List.head?_reverse, ← trimStart_eq_self_iff, ← reverse_trimEnd, List.reverse_inj]

theorem trimStart_isSuffix (text : Text) : trimStart text <:+ text :=
  List.dropWhile_suffix isBlank

theorem trimEnd_isPrefix (text : Text) : trimEnd text <+: text :=
  List.rdropWhile_prefix isBlank text

theorem trim_isInfix (text : Text) : trim text <:+: text :=
  (trimEnd_isPrefix (trimStart text)).isInfix.trans (trimStart_isSuffix text).isInfix

theorem trim_eq_self_iff {text : Text} :
    trim text = text ↔
      (∀ c ∈ text.head?, isBlank c = false) ∧ ∀ c ∈ text.getLast?, isBlank c = false := by
  rw [← trimStart_eq_self_iff, ← trimEnd_eq_self_iff]
  constructor
  · intro htrim
    have hle := (trimEnd_isPrefix (trimStart text)).length_le
    rw [← trim, htrim] at hle
    have hstart : trimStart text = text := (trimStart_isSuffix text).eq_of_length_le hle
    rw [trim, hstart] at htrim
    exact ⟨hstart, htrim⟩
  · rintro ⟨hstart, hend⟩
    rw [trim, hstart, hend]

theorem isBlank_of_mem_head?_trim {text : Text} {c : Char} (h : c ∈ (trim text).head?) :
    isBlank c = false := by
  obtain ⟨blanks, hblanks⟩ := trimEnd_isPrefix (trimStart text)
  rw [← trim] at hblanks
  have hhead : c ∈ (trimStart text).head? := by
    rw [← hblanks, List.head?_append, Option.mem_def.mp h]
    rfl
  exact isBlank_of_mem_head?_trimStart hhead

@[simp] theorem trim_trim (text : Text) : trim (trim text) = trim text :=
  trim_eq_self_iff.mpr
    ⟨fun _ => isBlank_of_mem_head?_trim, fun _ => isBlank_of_mem_getLast?_trimEnd⟩

@[simp] theorem trim_cons_of_blank {blank : Char} (h : isBlank blank = true) (text : Text) :
    trim (blank :: text) = trim text := by
  rw [trim, trimStart, List.dropWhile_cons_of_pos h]
  rfl

theorem trimStart_append {first : Text} (hfirst : ∃ c ∈ first, isBlank c = false) (second : Text) :
    trimStart (first ++ second) = trimStart first ++ second := by
  have hne : trimStart first ≠ [] := by
    intro hnil
    obtain ⟨c, hc, hblank⟩ := hfirst
    have hall := List.dropWhile_eq_nil_iff.mp hnil c hc
    rw [hblank] at hall
    cases hall
  unfold trimStart at hne ⊢
  rw [List.dropWhile_append, if_neg (by simpa using hne)]

theorem trimEnd_append {second : Text} (hsecond : ∃ c ∈ second, isBlank c = false) (first : Text) :
    trimEnd (first ++ second) = first ++ trimEnd second := by
  rw [← List.reverse_inj, List.reverse_append, reverse_trimEnd, reverse_trimEnd,
    List.reverse_append]
  apply trimStart_append
  simpa using hsecond

@[simp] theorem trim_concat_of_blank {blank : Char} (h : isBlank blank = true) (text : Text) :
    trim (text ++ [blank]) = trim text := by
  by_cases htext : ∃ c ∈ text, isBlank c = false
  · rw [trim, trimStart_append htext, trimEnd, List.reverse_concat, List.dropWhile_cons_of_pos h]
    rfl
  · have hblanks : ∀ c ∈ text, isBlank c = true := by simpa using htext
    have hnone : trimStart text = [] := List.dropWhile_eq_nil_iff.mpr hblanks
    have hnone' : trimStart (text ++ [blank]) = [] :=
      List.dropWhile_eq_nil_iff.mpr
        (List.forall_mem_append.mpr ⟨hblanks, by simpa using h⟩)
    rw [trim, trim, hnone, hnone']

theorem trim_append_of_blank {blanks : Text} (hblanks : ∀ c ∈ blanks, isBlank c = true)
    (text : Text) : trim (blanks ++ text) = trim text := by
  induction blanks with
  | nil => rfl
  | cons blank blanks ih =>
    obtain ⟨hblank, hblanks⟩ := List.forall_mem_cons.mp hblanks
    simpa [hblank] using ih hblanks

theorem trim_append_trailing {blanks : Text} (hblanks : ∀ c ∈ blanks, isBlank c = true)
    (text : Text) : trim (text ++ blanks) = trim text := by
  induction blanks generalizing text with
  | nil => rw [List.append_nil]
  | cons blank blanks ih =>
    obtain ⟨hblank, hblanks⟩ := List.forall_mem_cons.mp hblanks
    rw [List.append_cons, ih hblanks, trim_concat_of_blank hblank]

/-- What stands between two characters that are not blank is not trimmed away. -/
theorem trim_append_cons {before after : Text} (hbefore : ∃ c ∈ before, isBlank c = false)
    (hafter : ∃ c ∈ after, isBlank c = false) (c : Char) :
    trim (before ++ c :: after) = trimStart before ++ c :: trimEnd after := by
  have hsplit : trimStart before ++ c :: after = (trimStart before ++ [c]) ++ after := by simp
  rw [trim, trimStart_append hbefore, hsplit, trimEnd_append hafter]
  simp

theorem exists_not_blank_of_trim_eq {text : Text} (htrim : trim text = text) (hne : text ≠ []) :
    ∃ c ∈ text, isBlank c = false := by
  obtain ⟨c, cs, rfl⟩ := List.exists_cons_of_ne_nil hne
  exact ⟨c, List.mem_cons_self, (trim_eq_self_iff.mp htrim).1 c rfl⟩

theorem trim_append_cons_eq_self {first second : Text} (hfirst : trim first = first)
    (hsecond : trim second = second) (hfirst_ne : first ≠ []) (hsecond_ne : second ≠ [])
    (c : Char) : trim (first ++ c :: second) = first ++ c :: second := by
  rw [trim_append_cons (exists_not_blank_of_trim_eq hfirst hfirst_ne)
    (exists_not_blank_of_trim_eq hsecond hsecond_ne),
    trimStart_eq_self_iff.mpr (trim_eq_self_iff.mp hfirst).1,
    trimEnd_eq_self_iff.mpr (trim_eq_self_iff.mp hsecond).2]

end ClassList.Text
