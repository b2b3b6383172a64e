import ClassList.Proofs.Text.Lines
import ClassList.Section

namespace ClassList.Section

/-- A section that can be told from its lines: its label and its classes take up a line each, and
    it has classes. -/
structure Legible (part : Section) : Prop where
  label : ∀ label, part.label = some label → Text.IsLine label
  classes_ne_nil : part.classes ≠ []
  classes : Text.IsLine part.classes

/-- Sections that can be told from their lines: only the first may be without a label. -/
structure WellFormed (parts : List Section) : Prop where
  label_ne_none : ∀ part ∈ parts.tail, part.label ≠ none
  legible : ∀ part ∈ parts, part.Legible

namespace Reader

/-- What holds however far lines have been read. A label is missing only before the first label
    line, when nothing has been closed yet. -/
structure Valid (reader : Reader) : Prop where
  closed : WellFormed reader.closed
  closed_eq_nil : reader.label = none → reader.closed = []
  label : ∀ label, reader.label = some label → Text.IsLine label
  pending : ∀ line ∈ reader.pending, line ≠ [] ∧ Text.IsLine line

theorem valid_start : start.Valid where
  closed := ⟨fun _ h => (List.not_mem_nil h).elim, fun _ h => (List.not_mem_nil h).elim⟩
  closed_eq_nil _ := rfl
  label _ h := by cases h
  pending _ h := (List.not_mem_nil h).elim

theorem Valid.wellFormed_sections {reader : Reader} (hvalid : reader.Valid) :
    WellFormed reader.sections := by
  unfold sections
  split
  · exact hvalid.closed
  · next hpending =>
    have hne : reader.pending ≠ [] := by simpa using hpending
    obtain ⟨hclasses_ne, hclasses⟩ := Text.isLine_join hne hvalid.pending
    constructor
    · intro part hpart
      cases hclosed : reader.closed with
      | nil =>
        rw [hclosed] at hpart
        cases hpart
      | cons first rest =>
        rw [hclosed, List.cons_append, List.tail_cons] at hpart
        rcases List.mem_append.mp hpart with hrest | hlast
        · exact hvalid.closed.label_ne_none part (by simpa [hclosed] using hrest)
        · rw [List.mem_singleton.mp hlast]
          intro hnone
          have hnil := hvalid.closed_eq_nil hnone
          rw [hclosed] at hnil
          cases hnil
    · intro part hpart
      rcases List.mem_append.mp hpart with hclosed | hlast
      · exact hvalid.closed.legible part hclosed
      · rw [List.mem_singleton.mp hlast]
        exact ⟨hvalid.label, hclasses_ne, hclasses⟩

/-- A label line closes the open section with a new label. Any other line leaves the label as it
    is and adds at most its own trim. -/
theorem read_cases (reader : Reader) (line : Text) :
    (∃ label, line = marker ++ label ∧
      reader.read line = ⟨reader.sections, some (Text.trim label), []⟩) ∨
    (¬ marker <+: line ∧ Text.trim line = [] ∧ reader.read line = reader) ∨
    (¬ marker <+: line ∧ Text.trim line ≠ [] ∧
      reader.read line = { reader with pending := reader.pending ++ [Text.trim line] }) := by
  unfold read
  split
  · next label => exact .inl ⟨label, rfl, rfl⟩
  · next hline =>
    have hmarker : ¬ marker <+: line := by
      rintro ⟨label, rfl⟩
      exact hline label rfl
    by_cases hblank : Text.trim line = []
    · exact .inr (.inl ⟨hmarker, hblank, by simp [hblank]⟩)
    · exact .inr (.inr ⟨hmarker, hblank, by simp [hblank]⟩)

theorem Valid.read {reader : Reader} (hvalid : reader.Valid) {line : Text} (hline : '\n' ∉ line) :
    (reader.read line).Valid := by
  obtain ⟨label, rfl, hread⟩ | ⟨_, _, hread⟩ | ⟨_, hne, hread⟩ := reader.read_cases line
  · have hlabel : Text.IsLine (Text.trim label) :=
      Text.isLine_trim fun hfeed => hline (List.mem_append_right marker hfeed)
    rw [hread]
    constructor
    · exact hvalid.wellFormed_sections
    · intro hnone
      cases hnone
    · intro other hother
      cases hother
      exact hlabel
    · intro row hrow
      cases hrow
  · rwa [hread]
  · rw [hread]
    refine ⟨hvalid.closed, hvalid.closed_eq_nil, hvalid.label, ?_⟩
    intro row hrow
    rcases List.mem_append.mp hrow with hpending | hlast
    · exact hvalid.pending row hpending
    · rw [List.mem_singleton.mp hlast]
      exact ⟨hne, Text.isLine_trim hline⟩

theorem Valid.foldl_read {reader : Reader} (hvalid : reader.Valid) {rows : List Text}
    (hrows : ∀ row ∈ rows, '\n' ∉ row) : (rows.foldl Reader.read reader).Valid := by
  induction rows generalizing reader with
  | nil => exact hvalid
  | cons row rest ih =>
    obtain ⟨hrow, hrest⟩ := List.forall_mem_cons.mp hrows
    exact ih (hvalid.read hrow) hrest

end Reader

/-- The label that a line gives, if it is a label line. -/
def lineLabel? (line : Text) : Option Text :=
  if marker.isPrefixOf line then some (Text.trim (line.drop marker.length)) else none

@[simp] theorem lineLabel?_marker_append (label : Text) :
    lineLabel? (marker ++ label) = some (Text.trim label) := by
  rw [lineLabel?, if_pos (List.isPrefixOf_iff_prefix.mpr (List.prefix_append _ _)),
    List.drop_left]

theorem lineLabel?_eq_none_iff {line : Text} : lineLabel? line = none ↔ ¬ marker <+: line := by
  rw [lineLabel?, ← List.isPrefixOf_iff_prefix]
  simp

namespace Reader

theorem read_of_lineLabel?_eq_some (reader : Reader) {line label : Text}
    (hlabel : lineLabel? line = some label) :
    reader.read line = ⟨reader.sections, some label, []⟩ := by
  obtain ⟨other, rfl, hread⟩ | ⟨hmarker, _, _⟩ | ⟨hmarker, _, _⟩ := reader.read_cases line
  · rw [lineLabel?_marker_append] at hlabel
    cases hlabel
    exact hread
  · rw [lineLabel?_eq_none_iff.mpr hmarker] at hlabel
    cases hlabel
  · rw [lineLabel?_eq_none_iff.mpr hmarker] at hlabel
    cases hlabel

theorem read_of_lineLabel?_eq_none (reader : Reader) {line : Text}
    (hlabel : lineLabel? line = none) :
    reader.read line =
      { reader with pending := reader.pending ++ [Text.trim line].filter (!·.isEmpty) } := by
  obtain ⟨other, rfl, _⟩ | ⟨_, hblank, hread⟩ | ⟨_, hcontent, hread⟩ := reader.read_cases line
  · rw [lineLabel?_marker_append] at hlabel
    cases hlabel
  · rw [hread, hblank]
    simp
  · rw [hread]
    simp [hcontent]

end Reader

/-- The carriage return that ends a line is no part of its marker. -/
@[simp] theorem lineLabel?_concat_return (row : Text) :
    lineLabel? (row ++ ['\r']) = lineLabel? row := by
  by_cases hmarker : marker <+: row
  · obtain ⟨label, rfl⟩ := hmarker
    simp
  · have hmarker' : ¬ marker <+: row ++ ['\r'] := by
      rw [List.prefix_concat_iff, not_or]
      refine ⟨?_, hmarker⟩
      intro heq
      have hlast := congrArg List.getLast? heq
      rw [List.getLast?_concat] at hlast
      exact absurd hlast (by decide)
    rw [lineLabel?_eq_none_iff.mpr hmarker, lineLabel?_eq_none_iff.mpr hmarker']

/-- The carriage return that ends a line says nothing. -/
@[simp] theorem Reader.read_concat_return (reader : Reader) (row : Text) :
    reader.read (row ++ ['\r']) = reader.read row := by
  have hlabel := lineLabel?_concat_return row
  cases hrow : lineLabel? row with
  | some label =>
    rw [reader.read_of_lineLabel?_eq_some hrow,
      reader.read_of_lineLabel?_eq_some (hlabel.trans hrow)]
  | none =>
    rw [reader.read_of_lineLabel?_eq_none hrow,
      reader.read_of_lineLabel?_eq_none (hlabel.trans hrow)]
    simp

@[simp] theorem Reader.read_dropReturn (reader : Reader) (row : Text) :
    reader.read (Text.dropReturn row) = reader.read row := by
  unfold Text.dropReturn
  split
  · next hreturn =>
    have hsplit : row.dropLast ++ ['\r'] = row := List.dropLast_append_getLast? '\r' hreturn
    rw [← reader.read_concat_return, hsplit]
  · rfl

/-- Line ends play no part in reading: a text reads as what stands between its line feeds. -/
theorem parseLines_eq_foldl_splitOn (text : Text) :
    parseLines text = ((text.splitOn '\n').foldl Reader.read Reader.start).sections := by
  have hne : text.splitOn '\n' ≠ [] := List.splitOn_ne_nil '\n' text
  have hsplit := List.dropLast_concat_getLast hne
  -- what stands behind the last line feed is no line if it is empty, but then it says nothing
  have hlast : ∀ (reader : Reader) (piece : Text),
      ([piece].filter (!·.isEmpty)).foldl Reader.read reader = reader.read piece := by
    intro reader piece
    cases piece with
    | nil => rfl
    | cons c cs => rfl
  simp only [parseLines, Text.lines, List.getLast?_eq_some_getLast hne, Option.toList_some]
  conv_rhs => rw [← hsplit]
  rw [List.foldl_append, List.foldl_append, hlast, List.foldl_map]
  simp

theorem wellFormed_parseLines (text : Text) : WellFormed (parseLines text) :=
  (Reader.valid_start.foldl_read fun _ => Text.feed_not_mem_of_mem_lines).wellFormed_sections

end ClassList.Section
