import ClassList.Catalog.Standard
import ClassList.Layout
import ClassList.Proofs.Arrangement.StableOrder
import ClassList.Proofs.Text.Join
import ClassList.Proofs.Text.Words

namespace ClassList

theorem foldl_appendToken_of_ne_nil {line : Text} (hne : line ≠ []) (tokens : List Text) :
    tokens.foldl appendToken line = Text.join ' ' (line :: tokens) := by
  induction tokens generalizing line with
  | nil => simp
  | cons token rest ih =>
    have hstep : appendToken line token = line ++ ' ' :: token := by simp [appendToken, hne]
    rw [List.foldl_cons, hstep, ih (by simp)]
    cases rest with
    | nil => simp
    | cons next others => simp

/-- Empty tokens leave no trace as long as the line is empty. -/
theorem foldl_appendToken_nil (tokens : List Text) :
    tokens.foldl appendToken [] = Text.join ' ' (tokens.dropWhile List.isEmpty) := by
  induction tokens with
  | nil => rfl
  | cons token rest ih =>
    rw [List.foldl_cons, show appendToken [] token = token from rfl]
    by_cases hempty : token = []
    · rw [hempty, List.dropWhile_cons_of_pos rfl, ih]
    · rw [foldl_appendToken_of_ne_nil hempty, List.dropWhile_cons_of_neg (by simpa using hempty)]

/-- The line of an arrangement has its tokens from the first that is not empty. -/
theorem Arrangement.renderInline_eq_join_dropWhile (arrangement : Arrangement) :
    arrangement.renderInline = Text.join ' ' (arrangement.tokens.dropWhile List.isEmpty) :=
  foldl_appendToken_nil arrangement.tokens

theorem Arrangement.renderInline_eq_join {arrangement : Arrangement}
    (hfirst : arrangement.tokens.head? ≠ some []) :
    arrangement.renderInline = Text.join ' ' arrangement.tokens := by
  rw [renderInline_eq_join_dropWhile]
  exact Text.join_dropWhile_isEmpty_iff.mpr (.inl hfirst)

namespace Catalog

theorem mem_words_of_mem_tokens_arrange {catalog : Catalog} {text token : Text}
    (htoken : token ∈ (catalog.arrange text).tokens) : token ∈ Text.words text := by
  rw [tokens_arrange] at htoken
  obtain ⟨rank, _, hrank⟩ := List.mem_flatMap.mp htoken
  exact (mem_ofRank.mp hrank).1

theorem isWord_of_mem_tokens_arrange {catalog : Catalog} {text token : Text}
    (htoken : token ∈ (catalog.arrange text).tokens) : Text.IsWord token :=
  Text.isWord_of_mem_words (mem_words_of_mem_tokens_arrange htoken)

theorem isWord_of_mem_bucket {catalog : Catalog} {text : Text} {bucket : Bucket}
    (hbucket : bucket ∈ (catalog.arrange text).buckets) {token : Text}
    (htoken : token ∈ bucket.tokens) : Text.IsWord token :=
  isWord_of_mem_tokens_arrange (List.mem_flatMap.mpr ⟨bucket, hbucket, htoken⟩)

theorem head?_tokens_arrange_ne (catalog : Catalog) (text : Text) :
    (catalog.arrange text).tokens.head? ≠ some [] := by
  intro hfirst
  exact (isWord_of_mem_tokens_arrange (List.mem_of_mem_head? hfirst)).1 rfl

theorem writeInline_eq_join (catalog : Catalog) (text : Text) :
    catalog.writeInline text = Text.join ' ' (catalog.arrange text).tokens :=
  Arrangement.renderInline_eq_join (catalog.head?_tokens_arrange_ne text)

theorem writeInline_eq_join_sortByRank (catalog : Catalog) (text : Text) :
    catalog.writeInline text = Text.join ' ' (catalog.sortByRank (Text.words text)) := by
  rw [writeInline_eq_join, tokens_arrange_eq_sortByRank]

@[simp] theorem words_writeInline (catalog : Catalog) (text : Text) :
    Text.words (catalog.writeInline text) = (catalog.arrange text).tokens := by
  rw [writeInline_eq_join]
  exact Text.words_join_of_isWord fun _ => isWord_of_mem_tokens_arrange

theorem ofRank_words_writeInline (catalog : Catalog) (rank : Nat) (text : Text) :
    catalog.ofRank rank (Text.words (catalog.writeInline text)) =
      catalog.ofRank rank (Text.words text) := by
  simp

/-- What is written on one line as it stands is in order, with single spaces between its words. -/
theorem writeInline_eq_self_iff {catalog : Catalog} {text : Text} :
    catalog.writeInline text = text ↔
      Text.join ' ' (Text.words text) = text ∧ catalog.InOrder (Text.words text) := by
  constructor
  · intro hwritten
    have hwords := catalog.words_writeInline text
    rw [hwritten, tokens_arrange_eq_sortByRank] at hwords
    have horder := sortByRank_eq_self_iff.mp hwords.symm
    rw [writeInline_eq_join_sortByRank, ← hwords] at hwritten
    exact ⟨hwritten, horder⟩
  · rintro ⟨hspaced, horder⟩
    rw [writeInline_eq_join_sortByRank, sortByRank_eq_self_iff.mpr horder, hspaced]

/-- An arrangement is determined by the tokens of every rank. -/
theorem arrange_eq_of_ofRank_eq {catalog : Catalog} {x y : Text}
    (hranks : ∀ rank ≤ catalog.length,
      catalog.ofRank rank (Text.words x) = catalog.ofRank rank (Text.words y)) :
    catalog.arrange x = catalog.arrange y := by
  have hoccur : catalog.ranks (Text.words x) = catalog.ranks (Text.words y) := by
    apply List.filter_congr
    intro rank hrank
    rw [hranks rank (Nat.le_of_lt_succ (List.mem_range.mp hrank))]
  apply Arrangement.ext
  rw [buckets_arrange, buckets_arrange, hoccur]
  apply List.map_congr_left
  intro rank hrank
  obtain ⟨token, _, rfl⟩ := mem_ranks.mp hrank
  rw [bucketOfRank, bucketOfRank, hranks _ (catalog.rank_le_length token)]

/-- The tokens of an arrangement, read as a text, are arranged as they were. -/
theorem arrange_eq_of_words_eq_tokens {catalog : Catalog} {x y : Text}
    (hwords : Text.words x = (catalog.arrange y).tokens) :
    catalog.arrange x = catalog.arrange y := by
  apply arrange_eq_of_ofRank_eq
  simp [hwords]

/-- Writing on one line is a normal form. Two texts are written alike exactly if they have the
    same tokens of every rank in the same order. What is written is arranged as the text was, and
    a text may be written piece by piece. -/
theorem writeInline_normalForm (catalog : Catalog) :
    (∀ x y, catalog.writeInline x = catalog.writeInline y ↔
      ∀ rank ≤ catalog.length,
        catalog.ofRank rank (Text.words x) = catalog.ofRank rank (Text.words y)) ∧
    (∀ x, catalog.arrange (catalog.writeInline x) = catalog.arrange x) ∧
    (∀ x, catalog.writeInline (catalog.writeInline x) = catalog.writeInline x) ∧
    ∀ a b blanks, blanks ≠ [] → (∀ c ∈ blanks, Text.isBlank c = true) →
      catalog.writeInline (a ++ blanks ++ b) =
        catalog.writeInline (catalog.writeInline a ++ blanks ++ catalog.writeInline b) := by
  have harrange : ∀ x, catalog.arrange (catalog.writeInline x) = catalog.arrange x := by
    intro x
    apply arrange_eq_of_ofRank_eq
    simp
  refine ⟨?_, harrange, ?_, ?_⟩
  · intro x y
    constructor
    · intro hline rank _
      rw [← ofRank_words_writeInline, hline, ofRank_words_writeInline]
    · intro hranks
      rw [writeInline, arrange_eq_of_ofRank_eq hranks]
      rfl
  · intro x
    rw [writeInline, harrange]
    rfl
  · intro a b blanks hne hblanks
    rw [writeInline, writeInline, arrange_eq_of_ofRank_eq]
    intro rank _
    rw [Text.words_append_separated hne hblanks, Text.words_append_separated hne hblanks]
    simp

/-- Two class lists on both sides of an ideographic space and a line feed. -/
theorem writeInline_normalForm_ideographic_space :
    ("\u3000\n".toList ≠ [] ∧ ∀ c ∈ "\u3000\n".toList, Text.isBlank c = true) ∧
    Catalog.standard.writeInline ("mt-4 flex".toList ++ "\u3000\n".toList ++ "x block".toList) =
      Catalog.standard.writeInline
        (Catalog.standard.writeInline "mt-4 flex".toList ++ "\u3000\n".toList ++
          Catalog.standard.writeInline "x block".toList) := by
  have hne : "\u3000\n".toList ≠ [] := by decide
  have hblanks : ∀ c ∈ "\u3000\n".toList, Text.isBlank c = true := List.all_eq_true.mp (by decide)
  exact ⟨⟨hne, hblanks⟩, (writeInline_normalForm Catalog.standard).2.2.2 _ _ _ hne hblanks⟩

end Catalog

end ClassList
