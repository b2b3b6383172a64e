import ClassList.Proofs.Text.Trim

namespace ClassList.Text

theorem words_append_of_blank {blanks : Text} (hblanks : ∀ c ∈ blanks, isBlank c = true)
    (text : Text) : words (blanks ++ text) = words text := by
  induction blanks with
  | nil => rfl
  | cons blank blanks ih =>
    obtain ⟨hblank, hblanks⟩ := List.forall_mem_cons.mp hblanks
    have hsplit : words (blank :: (blanks ++ text)) = words [] ++ words (blanks ++ text) :=
      words_append_blank hblank [] (blanks ++ text)
    simpa [hsplit] using ih hblanks

theorem words_append_separated {blanks : Text} (hne : blanks ≠ [])
    (hblanks : ∀ c ∈ blanks, isBlank c = true) (before after : Text) :
    words (before ++ blanks ++ after) = words before ++ words after := by
  obtain ⟨blank, rest, rfl⟩ := List.exists_cons_of_ne_nil hne
  obtain ⟨hblank, hrest⟩ := List.forall_mem_cons.mp hblanks
  rw [List.append_assoc, List.cons_append, words_append_blank hblank before (rest ++ after),
    words_append_of_blank hrest]

theorem words_append_trailing {blanks : Text} (hblanks : ∀ c ∈ blanks, isBlank c = true)
    (text : Text) : words (text ++ blanks) = words text := by
  cases blanks with
  | nil => rw [List.append_nil]
  | cons blank rest =>
    obtain ⟨hblank, hrest⟩ := List.forall_mem_cons.mp hblanks
    have hnone : words rest = [] := by simpa using words_append_of_blank hrest []
    simp [hblank, hnone]

@[simp] theorem words_trimStart (text : Text) : words (trimStart text) = words text := by
  have hsplit : text.takeWhile isBlank ++ trimStart text = text := List.takeWhile_append_dropWhile
  have hblanks : ∀ c ∈ text.takeWhile isBlank, isBlank c = true :=
    fun _ => List.mem_takeWhile_imp
  calc words (trimStart text)
      = words (text.takeWhile isBlank ++ trimStart text) := (words_append_of_blank hblanks _).symm
    _ = words text := by rw [hsplit]

@[simp] theorem words_trimEnd (text : Text) : words (trimEnd text) = words text := by
  have hsplit : trimEnd text ++ (text.reverse.takeWhile isBlank).reverse = text := by
    rw [trimEnd, ← List.reverse_append, List.takeWhile_append_dropWhile, List.reverse_reverse]
  have hblanks : ∀ c ∈ (text.reverse.takeWhile isBlank).reverse, isBlank c = true :=
    fun _ hc => List.mem_takeWhile_imp (List.mem_reverse.mp hc)
  calc words (trimEnd text)
      = words (trimEnd text ++ (text.reverse.takeWhile isBlank).reverse) :=
        (words_append_trailing hblanks _).symm
    _ = words text := by rw [hsplit]

@[simp] theorem words_trim (text : Text) : words (trim text) = words text := by
  simp [trim]

/-- The first piece between separators starts the text, and every later one stands in it. -/
theorem isInfix_of_splitOnP_eq_cons {separates : Char → Bool} {text first : Text}
    {rest : List Text} (h : text.splitOnP separates = first :: rest) :
    first <+: text ∧ ∀ piece ∈ rest, piece <:+: text := by
  induction text generalizing first rest with
  | nil =>
    rw [List.splitOnP_nil] at h
    cases h
    simp
  | cons c cs ih =>
    obtain ⟨head, tail, hpieces⟩ :=
      List.exists_cons_of_ne_nil (List.splitOnP_ne_nil separates cs)
    obtain ⟨hhead, htail⟩ := ih hpieces
    rw [List.splitOnP_cons_eq_if_modifyHead, hpieces] at h
    split at h
    · cases h
      refine ⟨List.nil_prefix, ?_⟩
      intro piece hpiece
      rcases List.mem_cons.mp hpiece with rfl | hpiece
      · exact List.infix_cons hhead.isInfix
      · exact List.infix_cons (htail piece hpiece)
    · rw [List.modifyHead_cons] at h
      cases h
      exact ⟨List.cons_prefix_cons.mpr ⟨rfl, hhead⟩,
        fun piece hpiece => List.infix_cons (htail piece hpiece)⟩

theorem isInfix_of_mem_splitOnP {separates : Char → Bool} {text piece : Text}
    (h : piece ∈ text.splitOnP separates) : piece <:+: text := by
  obtain ⟨first, rest, hpieces⟩ :=
    List.exists_cons_of_ne_nil (List.splitOnP_ne_nil separates text)
  obtain ⟨hfirst, hrest⟩ := isInfix_of_splitOnP_eq_cons hpieces
  rw [hpieces] at h
  rcases List.mem_cons.mp h with rfl | h
  · exact hfirst.isInfix
  · exact hrest piece h

theorem isInfix_of_mem_words {text word : Text} (h : word ∈ words text) : word <:+: text :=
  isInfix_of_mem_splitOnP (List.mem_filter.mp h).1

theorem flatten_splitOnP (separates : Char → Bool) (text : Text) :
    (text.splitOnP separates).flatten = text.filter fun c => !separates c := by
  induction text with
  | nil => simp
  | cons c cs ih =>
    obtain ⟨first, rest, hpieces⟩ :=
      List.exists_cons_of_ne_nil (List.splitOnP_ne_nil separates cs)
    rw [List.splitOnP_cons_eq_if_modifyHead, List.filter_cons, ← ih, hpieces]
    by_cases hc : separates c = true <;> simp [hc]

/-- The words hold exactly what is not blank. -/
theorem flatten_words (text : Text) : (words text).flatten = text.filter fun c => !isBlank c := by
  rw [words, List.flatten_filter_not_isEmpty, flatten_splitOnP]

theorem words_eq_nil_iff {text : Text} : words text = [] ↔ ∀ c ∈ text, isBlank c = true := by
  constructor
  · intro hnone c hc
    have hempty : text.filter (fun c => !isBlank c) = [] := by rw [← flatten_words, hnone]; rfl
    simpa using List.filter_eq_nil_iff.mp hempty c hc
  · intro hblanks
    simpa using words_append_of_blank hblanks []

theorem trim_eq_nil_iff {text : Text} : trim text = [] ↔ ∀ c ∈ text, isBlank c = true := by
  constructor
  · intro hnone
    rw [← words_eq_nil_iff, ← words_trim, hnone, words_nil]
  · intro hblanks
    have hstart : trimStart text = [] := List.dropWhile_eq_nil_iff.mpr hblanks
    rw [trim, hstart]
    rfl

end ClassList.Text
