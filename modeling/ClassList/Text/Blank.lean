import ClassList.Text.Basic

namespace ClassList.Text

/-- A character class as a list of inclusive ranges of code points. -/
abbrev Ranges := List (Nat × Nat)

/-- Whether a character lies in one of the ranges. -/
def Ranges.holds (ranges : Ranges) (c : Char) : Bool :=
  ranges.any fun range => range.1 ≤ c.toNat && c.toNat ≤ range.2

/-- The characters with the Unicode property White_Space. -/
def blankRanges : Ranges :=
  [(0x09, 0x0d), (0x20, 0x20), (0x85, 0x85), (0xa0, 0xa0), (0x1680, 0x1680), (0x2000, 0x200a),
    (0x2028, 0x2029), (0x202f, 0x202f), (0x205f, 0x205f), (0x3000, 0x3000)]

/-- Whether a character is white space. -/
def isBlank (c : Char) : Bool :=
  blankRanges.holds c

/-- The words of a text: its longest runs of characters that are not blank, in order. -/
def words (text : Text) : List Text :=
  (text.splitOnP isBlank).filter fun piece => !piece.isEmpty

/-- A text without the blank characters at its start. -/
def trimStart (text : Text) : Text :=
  text.dropWhile isBlank

/-- A text without the blank characters at its end. -/
def trimEnd (text : Text) : Text :=
  (text.reverse.dropWhile isBlank).reverse

/-- A text without the blank characters at either end. -/
def trim (text : Text) : Text :=
  trimEnd (trimStart text)

@[simp] theorem isBlank_space : isBlank ' ' = true := by
  decide

@[simp] theorem isBlank_feed : isBlank '\n' = true := by
  decide

@[simp] theorem isBlank_return : isBlank '\r' = true := by
  decide

/-- A piece between separators holds no separator. -/
theorem separates_of_mem_splitOnP {separates : Char → Bool} {text piece : Text}
    (h : piece ∈ text.splitOnP separates) : ∀ c ∈ piece, separates c = false := by
  induction text generalizing piece with
  | nil =>
    simp only [List.splitOnP_nil, List.mem_singleton] at h
    simp [h]
  | cons c cs ih =>
    rw [List.splitOnP_cons_eq_if_modifyHead] at h
    split at h
    · rcases List.mem_cons.mp h with rfl | hrest
      · simp
      · exact ih hrest
    · next hc =>
      obtain ⟨first, rest, hpieces⟩ :=
        List.exists_cons_of_ne_nil (List.splitOnP_ne_nil separates cs)
      rw [hpieces, List.modifyHead_cons] at h
      rcases List.mem_cons.mp h with rfl | hrest
      · intro d hd
        rcases List.mem_cons.mp hd with rfl | hd
        · simpa using hc
        · exact ih (hpieces ▸ List.mem_cons_self) d hd
      · exact ih (hpieces ▸ List.mem_cons_of_mem first hrest)

/-- What a text has to be in order to be a word. -/
def IsWord (word : Text) : Prop :=
  word ≠ [] ∧ ∀ c ∈ word, isBlank c = false

theorem isWord_of_mem_words {text word : Text} (h : word ∈ words text) : IsWord word := by
  obtain ⟨hpiece, hne⟩ := List.mem_filter.mp h
  exact ⟨by simpa using hne, separates_of_mem_splitOnP hpiece⟩

@[simp] theorem words_nil : words [] = [] := by
  simp [words, List.splitOnP_nil]

/-- A blank character ends a word, and belongs to none. -/
@[simp] theorem words_append_blank {blank : Char} (h : isBlank blank = true) (before after : Text) :
    words (before ++ blank :: after) = words before ++ words after := by
  unfold words
  rw [List.splitOnP_append_cons before after h, List.filter_append]

theorem words_of_isWord {word : Text} (h : IsWord word) : words word = [word] := by
  obtain ⟨hne, hword⟩ := h
  unfold words
  rw [List.splitOnP_eq_singleton hword]
  simpa using hne

/-- Joining parts by a blank character keeps their words apart. -/
@[simp] theorem words_join {separator : Char} (h : isBlank separator = true) (parts : List Text) :
    words (join separator parts) = parts.flatMap words := by
  induction parts with
  | nil => simp
  | cons part rest ih =>
    cases rest with
    | nil => simp
    | cons next others =>
      rw [join_cons_cons, words_append_blank h, ih]
      rfl

/-- Words that are joined by single spaces read back as themselves. -/
theorem words_join_of_isWord {parts : List Text} (h : ∀ word ∈ parts, IsWord word) :
    words (join ' ' parts) = parts := by
  have hwords : parts.map words = parts.map fun word => [word] :=
    List.map_congr_left fun word hword => words_of_isWord (h word hword)
  rw [words_join isBlank_space, List.flatMap_def, hwords, ← List.flatMap_def]
  exact List.flatMap_singleton' parts

end ClassList.Text
