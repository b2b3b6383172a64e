import ClassList.Pattern
import ClassList.Proofs.Section.Reading
import ClassList.Proofs.Text.Comment

namespace ClassList.Section

/-- The words that a line adds to the classes that are read. -/
def contentWords (line : Text) : List Text :=
  if marker.isPrefixOf line then [] else Text.words line

theorem contentWords_of_marker {line : Text} (h : marker <+: line) : contentWords line = [] :=
  if_pos (List.isPrefixOf_iff_prefix.mpr h)

theorem contentWords_of_not_marker {line : Text} (h : ¬ marker <+: line) :
    contentWords line = Text.words line :=
  if_neg fun hprefix => h (List.isPrefixOf_iff_prefix.mp hprefix)

namespace Reader

/-- The words of all classes read so far. -/
def words (reader : Reader) : List Text :=
  reader.sections.flatMap fun part => Text.words part.classes

theorem words_eq (reader : Reader) :
    reader.words = (reader.closed.flatMap fun part => Text.words part.classes) ++
      reader.pending.flatMap Text.words := by
  unfold words sections
  cases hpending : reader.pending with
  | nil => simp
  | cons line rest => simp

/-- A line adds its words to those read before it, unless it is a label line. A label line moves
    the pending words to the closed sections, where they count as before. -/
@[simp] theorem words_read (reader : Reader) (line : Text) :
    (reader.read line).words = reader.words ++ contentWords line := by
  obtain ⟨label, rfl, hread⟩ | ⟨hmarker, hblank, hread⟩ | ⟨hmarker, _, hread⟩ :=
    reader.read_cases line
  · rw [hread, words_eq, contentWords_of_marker (List.prefix_append _ _)]
    rfl
  · have hnone : Text.words line = [] := by simpa using congrArg Text.words hblank
    rw [hread, contentWords_of_not_marker hmarker, hnone, List.append_nil]
  · simp [hread, words_eq, contentWords_of_not_marker hmarker]

theorem words_foldl_read (reader : Reader) (rows : List Text) :
    (rows.foldl read reader).words = reader.words ++ rows.flatMap contentWords := by
  induction rows generalizing reader with
  | nil => simp
  | cons row rest ih => simp [ih]

end Reader

theorem flatMap_words_parseLines (text : Text) :
    ((parseLines text).flatMap fun part => Text.words part.classes) =
      (text.splitOn '\n').flatMap contentWords := by
  rw [parseLines_eq_foldl_splitOn]
  exact Reader.start.words_foldl_read (text.splitOn '\n')

/-- Cleaning and reading agree on grouped lines. In a text in which no block comment opens and
    every line with two slashes in it starts with them, the words that cleaning leaves are the
    words of the classes of all sections, in their order. Labels, blank lines, indentation and
    carriage returns make no difference. -/
theorem words_clean_eq_words_parseLines {text : Text} (hblock : ¬ Text.blockOpener <:+: text)
    (hslashes : ∀ row ∈ text.splitOn '\n',
      Text.lineOpener <:+: row → Text.lineOpener <+: row) :
    Text.words (Text.clean text) =
      (parseLines text).flatMap fun part => Text.words part.classes := by
  have hrows := Text.feed_and_blockOpener_not_of_mem_splitOn hblock
  have hcut : ∀ row ∈ text.splitOn '\n', Text.words (Text.cutLine row) = contentWords row := by
    intro row hrow
    by_cases hmarker : marker <+: row
    · simp [Text.cutLine_of_lineOpener_isPrefix hmarker, contentWords_of_marker hmarker]
    · rw [Text.cutLine_eq_self fun hinside => hmarker (hslashes row hrow hinside),
        contentWords_of_not_marker hmarker]
  calc Text.words (Text.clean text)
      = Text.words (Text.clean (Text.join '\n' (text.splitOn '\n'))) := by
        rw [Text.join_splitOn]
    _ = (text.splitOn '\n').flatMap fun row => Text.words (Text.cutLine row) :=
        Text.words_clean_join hrows
    _ = (text.splitOn '\n').flatMap contentWords := by
        rw [List.flatMap_def, List.flatMap_def, List.map_congr_left hcut]
    _ = (parseLines text).flatMap fun part => Text.words part.classes :=
        (flatMap_words_parseLines text).symm

/-- Lines with an empty and two stale labels, with blank lines, an indented line and carriage
    returns. -/
def staleLines : Text :=
  "flex\r\n//\r\n \t mt-4 /x\r\n\r\n// Layout\n//b\n*".toList

theorem words_clean_staleLines :
    (¬ Text.blockOpener <:+: staleLines ∧
      ∀ row ∈ staleLines.splitOn '\n', Text.lineOpener <:+: row → Text.lineOpener <+: row) ∧
    Text.words (Text.clean staleLines) =
      ["flex".toList, "mt-4".toList, "/x".toList, "*".toList] := by
  have hblock : ¬ Text.blockOpener <:+: staleLines := by
    rw [← Text.occursIn_iff_isInfix]
    decide
  have hslashes : ∀ row ∈ staleLines.splitOn '\n',
      Text.lineOpener <:+: row → Text.lineOpener <+: row := by
    have hall : (staleLines.splitOn '\n').all (fun row =>
        !Text.lineOpener.occursIn row || Text.lineOpener.isPrefixOf row) = true := by
      decide
    intro row hrow hline
    have hprefix := List.all_eq_true.mp hall row hrow
    rw [Text.occursIn_iff_isInfix.mpr hline] at hprefix
    exact List.isPrefixOf_iff_prefix.mp hprefix
  refine ⟨⟨hblock, hslashes⟩, ?_⟩
  rw [words_clean_eq_words_parseLines hblock hslashes]
  decide

end ClassList.Section
