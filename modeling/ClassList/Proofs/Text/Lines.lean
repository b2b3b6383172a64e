import ClassList.Proofs.Text.Join
import ClassList.Proofs.Text.Trim

namespace ClassList.Text

/-- A text that can stand on a line and be found again by trimming the line. -/
structure IsLine (text : Text) : Prop where
  feed_not_mem : '\n' ∉ text
  trim_eq : trim text = text

theorem IsLine.isBlank_getLast? {text : Text} (hline : IsLine text) {c : Char}
    (h : c ∈ text.getLast?) : isBlank c = false :=
  (trim_eq_self_iff.mp hline.trim_eq).2 c h

theorem isLine_trim {text : Text} (h : '\n' ∉ text) : IsLine (trim text) :=
  ⟨fun hfeed => h ((trim_isInfix text).subset hfeed), trim_trim text⟩

theorem isLine_of_isWord {word : Text} (hword : IsWord word) : IsLine word := by
  constructor
  · intro hfeed
    have hblank := hword.2 '\n' hfeed
    exact absurd hblank (by decide)
  · apply trim_eq_self_iff.mpr
    exact ⟨fun c hc => hword.2 c (List.mem_of_mem_head? hc),
      fun c hc => hword.2 c (List.mem_of_mem_getLast? hc)⟩

/-- Trimmed parts that are joined are trimmed. -/
theorem trim_join {separator : Char} {parts : List Text}
    (hparts : ∀ part ∈ parts, part ≠ [] ∧ trim part = part) :
    trim (join separator parts) = join separator parts := by
  induction parts with
  | nil => rfl
  | cons part rest ih =>
    obtain ⟨⟨hpart_ne, hpart⟩, hparts⟩ := List.forall_mem_cons.mp hparts
    by_cases hempty : rest = []
    · subst hempty
      rw [join_singleton, hpart]
    · have hrest_ne : join separator rest ≠ [] :=
        join_ne_nil hempty fun other hother => (hparts other hother).1
      rw [join_cons_of_ne_nil part hempty]
      exact trim_append_cons_eq_self hpart (ih hparts) hpart_ne hrest_ne separator

theorem trim_join_of_isWord {separator : Char} {parts : List Text}
    (hparts : ∀ part ∈ parts, IsWord part) :
    trim (join separator parts) = join separator parts :=
  trim_join fun part hpart =>
    ⟨(hparts part hpart).1, (isLine_of_isWord (hparts part hpart)).trim_eq⟩

theorem isLine_join {parts : List Text} (hne : parts ≠ [])
    (hparts : ∀ part ∈ parts, part ≠ [] ∧ IsLine part) :
    join ' ' parts ≠ [] ∧ IsLine (join ' ' parts) := by
  refine ⟨join_ne_nil hne fun part hpart => (hparts part hpart).1, ?_, ?_⟩
  · intro hfeed
    rcases mem_join hfeed with hspace | ⟨part, hpart, hmem⟩
    · cases hspace
    · exact (hparts part hpart).2.feed_not_mem hmem
  · exact trim_join fun part hpart => ⟨(hparts part hpart).1, (hparts part hpart).2.trim_eq⟩

theorem feed_not_mem_of_mem_splitOn {text piece : Text} (hpiece : piece ∈ text.splitOn '\n') :
    '\n' ∉ piece := by
  intro hfeed
  rw [List.splitOn_eq_splitOnP] at hpiece
  have hseparates := separates_of_mem_splitOnP hpiece '\n' hfeed
  simp at hseparates

theorem feed_not_mem_of_mem_lines {text line : Text} (hline : line ∈ lines text) :
    '\n' ∉ line := by
  rcases List.mem_append.mp hline with hline | hline
  · obtain ⟨piece, hpiece, rfl⟩ := List.mem_map.mp hline
    have hfeed := feed_not_mem_of_mem_splitOn (List.dropLast_subset _ hpiece)
    unfold dropReturn
    split
    · exact fun hmem => hfeed (List.dropLast_subset piece hmem)
    · exact hfeed
  · obtain ⟨hlast, _⟩ := List.mem_filter.mp hline
    exact feed_not_mem_of_mem_splitOn (List.mem_of_mem_getLast? (by simpa using hlast))

/-- What a line needs in order to be read back whole from joined lines. An empty line may be the
    last, which is not counted, and a carriage return at the end would go with the line feed. -/
structure Lasting (row : Text) : Prop where
  ne_nil : row ≠ []
  feed_not_mem : '\n' ∉ row
  getLast?_ne : row.getLast? ≠ some '\r'

theorem IsLine.lasting {row : Text} (hrow : IsLine row) (hne : row ≠ []) : Lasting row := by
  refine ⟨hne, hrow.feed_not_mem, ?_⟩
  intro hreturn
  exact absurd (hrow.isBlank_getLast? hreturn) (by decide)

theorem Lasting.append {row : Text} (hrow : Lasting row) (start : Text)
    (hstart : '\n' ∉ start) :
    Lasting (start ++ row) := by
  refine ⟨List.append_ne_nil_of_right_ne_nil start hrow.ne_nil, ?_, ?_⟩
  · intro hfeed
    rcases List.mem_append.mp hfeed with h | h
    · exact hstart h
    · exact hrow.feed_not_mem h
  · rw [List.getLast?_append_of_ne_nil _ hrow.ne_nil]
    exact hrow.getLast?_ne

theorem IsLine.lasting_cons_space {row : Text} (hrow : IsLine row) : Lasting (' ' :: row) := by
  by_cases hempty : row = []
  · subst hempty
    exact ⟨by decide, by decide, by decide⟩
  · exact (hrow.lasting hempty).append [' '] (by decide)

theorem lines_join {rows : List Text} (hrows : ∀ row ∈ rows, Lasting row) :
    lines (join '\n' rows) = rows := by
  by_cases hempty : rows = []
  · subst hempty
    rfl
  have hpieces : (join '\n' rows).splitOn '\n' = rows :=
    List.splitOn_intercalate '\n' (fun row hrow => (hrows row hrow).feed_not_mem) hempty
  have hreturns : rows.dropLast.map dropReturn = rows.dropLast := by
    rw [List.map_congr_left (g := id), List.map_id]
    intro row hrow
    exact if_neg (hrows row (List.dropLast_subset rows hrow)).getLast?_ne
  have hlast : rows.getLast hempty ≠ [] := (hrows _ (List.getLast_mem hempty)).ne_nil
  simp only [lines, hpieces, hreturns, List.getLast?_eq_some_getLast hempty]
  simp [hlast, List.dropLast_concat_getLast]

/-- Joined lines are what a reader of lines finds exactly if no character in them ends a line. -/
theorem splitOnP_join_eq_iff {ends : Char → Bool} (hfeed : ends '\n' = true)
    {rows : List Text} (hne : rows ≠ []) :
    (join '\n' rows).splitOnP ends = rows ↔ ∀ row ∈ rows, ∀ c ∈ row, ends c = false := by
  constructor
  · intro hsplit row hrow
    rw [← hsplit] at hrow
    exact separates_of_mem_splitOnP hrow
  · intro hrows
    induction rows with
    | nil => exact absurd rfl hne
    | cons row rest ih =>
      obtain ⟨hrow, hrest⟩ := List.forall_mem_cons.mp hrows
      cases rest with
      | nil => rw [join_singleton, List.splitOnP_eq_singleton hrow]
      | cons next others =>
        rw [join_cons_cons, List.splitOnP_append_cons _ _ hfeed,
          List.splitOnP_eq_singleton hrow, ih (List.cons_ne_nil _ _) hrest]
        rfl

end ClassList.Text
