import ClassList.Proofs.Section.Reading
import ClassList.Proofs.Text.Join
import ClassList.Proofs.Text.Words
import Mathlib.Data.List.Infix

namespace ClassList

namespace Section

/-- The content lines that come first, up to a label line. -/
def leadingContent (rows : List Text) : List Text :=
  rows.takeWhile fun row => (lineLabel? row).isNone

/-- The lines that are not blank. -/
def dropBlank (rows : List Text) : List Text :=
  rows.filter fun row => !row.all Text.isBlank

/-- Content lines that follow each other, and the label of the line in front of them. -/
structure Segment where
  label : Option Text
  rows : List Text
deriving DecidableEq

namespace Segment

/-- The segment of the label line that lines start with, if they do. -/
def ofLabelLine? : List Text → Option Segment
  | [] => none
  | line :: rest => (lineLabel? line).map fun label => ⟨some label, leadingContent rest⟩

/-- What the lines of a segment say. -/
def contents (segment : Segment) : List Text :=
  (dropBlank segment.rows).map Text.trim

/-- A segment as a section. -/
def toSection (segment : Segment) : Section :=
  ⟨segment.label, Text.join ' ' segment.contents⟩

end Segment

/-- The segments of lines: the content lines in front of the first label line, and for every label
    line the content lines up to the next. -/
def segments (rows : List Text) : List Segment :=
  ⟨none, leadingContent rows⟩ :: rows.tails.filterMap Segment.ofLabelLine?

/-- The sections of segments. A segment with blank lines only is dropped. -/
def ofSegments (parts : List Segment) : List Section :=
  (parts.filter fun segment => !(dropBlank segment.rows).isEmpty).map Segment.toSection

@[simp] theorem ofSegments_append (parts others : List Segment) :
    ofSegments (parts ++ others) = ofSegments parts ++ ofSegments others := by
  rw [ofSegments, List.filter_append, List.map_append]
  rfl

theorem mem_ofSegments_iff {part : Section} {parts : List Segment} :
    part ∈ ofSegments parts ↔
      ∃ segment ∈ parts, dropBlank segment.rows ≠ [] ∧ segment.toSection = part := by
  simp [ofSegments, and_assoc]

theorem contents_cons (label : Option Text) (row : Text) (rows : List Text) :
    (Segment.mk label (row :: rows)).contents =
      [Text.trim row].filter (!·.isEmpty) ++ (Segment.mk label rows).contents := by
  unfold Segment.contents dropBlank
  by_cases hblank : Text.trim row = []
  · have hall : row.all Text.isBlank = true := by simpa using Text.trim_eq_nil_iff.mp hblank
    simp [hblank, hall]
  · have hall : row.all Text.isBlank = false := by
      rw [Text.trim_eq_nil_iff] at hblank
      simpa using hblank
    simp [hblank, hall]

namespace Reader

/-- The open section counts as a segment of the lines it has been read from. -/
theorem sections_contents (closed : List Section) (segment : Segment) :
    (Reader.mk closed segment.label segment.contents).sections =
      closed ++ ofSegments [segment] := by
  unfold sections ofSegments
  cases hrows : dropBlank segment.rows with
  | nil => simp [Segment.contents, hrows]
  | cons row rest => simp [Segment.toSection, Segment.contents, hrows]

/-- Reading on from any point adds the leading content lines to the open section, and then the
    sections of the segments behind it. -/
theorem sections_foldl_read (reader : Reader) (rows : List Text) :
    (rows.foldl read reader).sections =
      (Reader.mk reader.closed reader.label
        (reader.pending ++ (Segment.mk reader.label (leadingContent rows)).contents)).sections ++
      ofSegments (rows.tails.filterMap Segment.ofLabelLine?) := by
  induction rows generalizing reader with
  | nil => simp [leadingContent, Segment.contents, dropBlank, Segment.ofLabelLine?, ofSegments]
  | cons row rest ih =>
    cases hlabel : lineLabel? row with
    | some label =>
      -- the open section gets no more lines, and the next one starts empty
      have hleading : leadingContent (row :: rest) = [] := by simp [leadingContent, hlabel]
      have hopened : (Reader.mk reader.sections (some label)
          (Segment.mk (some label) (leadingContent rest)).contents).sections =
          reader.sections ++ ofSegments [⟨some label, leadingContent rest⟩] :=
        sections_contents _ ⟨some label, leadingContent rest⟩
      have htails : (row :: rest).tails.filterMap Segment.ofLabelLine? =
          [⟨some label, leadingContent rest⟩] ++ rest.tails.filterMap Segment.ofLabelLine? := by
        simp [Segment.ofLabelLine?, hlabel]
      rw [List.foldl_cons, reader.read_of_lineLabel?_eq_some hlabel, ih, htails, hleading,
        ofSegments_append, List.nil_append, hopened]
      simp [Segment.contents, dropBlank]
    | none =>
      -- the line is added behind what is pending, and in front of the content that follows
      have hleading : leadingContent (row :: rest) = row :: leadingContent rest := by
        simp [leadingContent, hlabel]
      have htails : (row :: rest).tails.filterMap Segment.ofLabelLine? =
          rest.tails.filterMap Segment.ofLabelLine? := by
        simp [Segment.ofLabelLine?, hlabel]
      rw [List.foldl_cons, reader.read_of_lineLabel?_eq_none hlabel, ih, htails, hleading,
        contents_cons, List.append_assoc]

end Reader

theorem parseLines_eq_ofSegments (text : Text) :
    parseLines text = ofSegments (segments (Text.lines text)) := by
  have hopened := Reader.sections_contents [] ⟨none, leadingContent (Text.lines text)⟩
  rw [parseLines, Reader.sections_foldl_read, segments]
  change (Reader.mk [] none (Segment.mk none (leadingContent (Text.lines text))).contents).sections
    ++ _ = _
  rw [hopened, List.nil_append, ← ofSegments_append]
  rfl

theorem lineLabel?_eq_none_of_blank {row : Text} (hblank : row.all Text.isBlank = true) :
    lineLabel? row = none := by
  rw [lineLabel?_eq_none_iff]
  intro hmarker
  have hslash : '/' ∈ row := hmarker.subset List.mem_cons_self
  exact absurd (List.all_eq_true.mp hblank '/' hslash) (by decide)

namespace Reader

theorem read_of_blank (reader : Reader) {row : Text} (hblank : row.all Text.isBlank = true) :
    reader.read row = reader := by
  have htrim : Text.trim row = [] := Text.trim_eq_nil_iff.mpr (by simpa using hblank)
  rw [reader.read_of_lineLabel?_eq_none (lineLabel?_eq_none_of_blank hblank), htrim]
  simp

@[simp] theorem foldl_read_dropBlank (reader : Reader) (rows : List Text) :
    (dropBlank rows).foldl read reader = rows.foldl read reader := by
  induction rows generalizing reader with
  | nil => rfl
  | cons row rest ih =>
    cases hblank : row.all Text.isBlank with
    | true =>
      have hdrop : dropBlank (row :: rest) = dropBlank rest := by simp [dropBlank, hblank]
      rw [hdrop, List.foldl_cons, reader.read_of_blank hblank, ih]
    | false =>
      have hkeep : dropBlank (row :: rest) = row :: dropBlank rest := by simp [dropBlank, hblank]
      rw [hkeep, List.foldl_cons, List.foldl_cons, ih]

/-- What has been closed stays in front, and has no effect on what is read behind it. -/
theorem sections_foldl_read_closed (reader : Reader) (rows : List Text) :
    (rows.foldl read reader).sections =
      reader.closed ++ (rows.foldl read { reader with closed := [] }).sections := by
  have hclosed : ∀ pending : List Text,
      (Reader.mk reader.closed reader.label pending).sections =
        reader.closed ++ (Reader.mk [] reader.label pending).sections := by
    intro pending
    unfold sections
    cases pending with
    | nil => simp
    | cons row rest => simp
  rw [sections_foldl_read, sections_foldl_read, hclosed, List.append_assoc]

end Reader

/-- Blank lines say nothing, wherever they stand. -/
theorem parseLines_eq_of_dropBlank_eq {text other : Text}
    (h : dropBlank (text.splitOn '\n') = dropBlank (other.splitOn '\n')) :
    parseLines text = parseLines other := by
  rw [parseLines_eq_foldl_splitOn, parseLines_eq_foldl_splitOn, ← Reader.foldl_read_dropBlank, h,
    Reader.foldl_read_dropBlank]

/-- The first line of a text that starts with a label line is that line. -/
theorem marker_isPrefix_of_splitOn_eq_cons {text first : Text} {rest : List Text}
    (hmarker : marker <+: text) (hrows : text.splitOn '\n' = first :: rest) :
    marker <+: first := by
  have hjoin : Text.join '\n' (text.splitOn '\n') = text := Text.join_splitOn text
  rw [hrows] at hjoin
  cases rest with
  | nil =>
    rw [Text.join_singleton] at hjoin
    rwa [hjoin]
  | cons next others =>
    rw [← hjoin, Text.join_cons_cons] at hmarker
    have hfeed : '\n' ∉ marker := by decide
    exact Text.isPrefix_of_isPrefix_append (by simpa using hfeed) hmarker

/-- A label line starts anew: what stands in front of it is read as if it ended there. -/
theorem parseLines_append_feed (before : Text) {after : Text} (hmarker : marker <+: after) :
    parseLines (before ++ '\n' :: after) = parseLines before ++ parseLines after := by
  obtain ⟨first, rest, hrows⟩ :=
    List.exists_cons_of_ne_nil (List.splitOn_ne_nil '\n' after)
  have hsplit : (before ++ '\n' :: after).splitOn '\n' =
      before.splitOn '\n' ++ first :: rest := by
    rw [← hrows, List.splitOn_eq_splitOnP, List.splitOn_eq_splitOnP, List.splitOn_eq_splitOnP]
    exact List.splitOnP_append_cons before after (by decide)
  obtain ⟨label, rfl⟩ := marker_isPrefix_of_splitOn_eq_cons hmarker hrows
  have hlabel := lineLabel?_marker_append label
  rw [parseLines_eq_foldl_splitOn, parseLines_eq_foldl_splitOn, parseLines_eq_foldl_splitOn,
    hsplit, hrows, List.foldl_append, List.foldl_cons, List.foldl_cons,
    Reader.read_of_lineLabel?_eq_some _ hlabel, Reader.read_of_lineLabel?_eq_some _ hlabel,
    Reader.sections_foldl_read_closed]
  rfl

end Section

/-- A text with a carriage return in front of every line feed. -/
def Text.withReturns (text : Text) : Text :=
  text.flatMap fun c => if c = '\n' then ['\r', '\n'] else [c]

/-- Carriage returns in front of line feeds come to stand at the ends of lines. -/
theorem Text.splitOn_withReturns (text : Text) :
    List.Forall₂ (fun row other => other = row ∨ other = row ++ ['\r'])
      (text.splitOn '\n') (text.withReturns.splitOn '\n') := by
  simp only [List.splitOn_eq_splitOnP]
  induction text with
  | nil => exact .cons (.inl rfl) .nil
  | cons c cs ih =>
    by_cases hfeed : c = '\n'
    · subst hfeed
      have hwritten : withReturns ('\n' :: cs) = ['\r'] ++ '\n' :: withReturns cs := rfl
      rw [hwritten, List.splitOnP_append_cons _ _ (by decide)]
      exact .cons (.inr rfl) ih
    · have hwritten : withReturns (c :: cs) = c :: withReturns cs := by
        simp [withReturns, hfeed]
      obtain ⟨first, rest, hrows⟩ :=
        List.exists_cons_of_ne_nil (List.splitOnP_ne_nil (· == '\n') cs)
      obtain ⟨first', rest', hrows'⟩ :=
        List.exists_cons_of_ne_nil (List.splitOnP_ne_nil (· == '\n') (withReturns cs))
      rw [hrows, hrows'] at ih
      obtain ⟨hfirst, hrest⟩ := List.forall₂_cons.mp ih
      rw [hwritten, List.splitOnP_cons_eq_if_modifyHead, List.splitOnP_cons_eq_if_modifyHead,
        hrows, hrows', if_neg (by simpa using hfeed), if_neg (by simpa using hfeed)]
      -- the character goes to the front of the first row, the return stands at its end
      refine .cons ?_ hrest
      rcases hfirst with rfl | rfl
      · exact .inl rfl
      · exact .inr rfl

namespace Section

theorem Reader.foldl_read_congr (reader : Reader) {rows others : List Text}
    (h : List.Forall₂ (fun row other => other = row ∨ other = row ++ ['\r']) rows others) :
    others.foldl read reader = rows.foldl read reader := by
  induction h generalizing reader with
  | nil => rfl
  | cons hrow _ ih =>
    rcases hrow with rfl | rfl
    · exact ih _
    · rw [List.foldl_cons, List.foldl_cons, reader.read_concat_return, ih]

theorem parseLines_withReturns (text : Text) : parseLines text.withReturns = parseLines text := by
  rw [parseLines_eq_foldl_splitOn, parseLines_eq_foldl_splitOn,
    Reader.foldl_read_congr _ (Text.splitOn_withReturns text)]

/-- Reading grouped lines gives the sections of their segments. So texts whose lines differ in blank
    ones only read alike, carriage returns in front of the line feeds make no difference, and texts
    are read one after the other, if the second starts with a label line. -/
theorem parseLines_segments :
    (∀ text, parseLines text = ofSegments (segments (Text.lines text))) ∧
    (∀ text other : Text, dropBlank (text.splitOn '\n') = dropBlank (other.splitOn '\n') →
      parseLines text = parseLines other) ∧
    (∀ text, parseLines text.withReturns = parseLines text) ∧
    ∀ before after : Text, marker <+: after →
      parseLines (before ++ '\n' :: after) = parseLines before ++ parseLines after :=
  ⟨parseLines_eq_ofSegments, fun _ _ => parseLines_eq_of_dropBlank_eq, parseLines_withReturns,
    fun before _ => parseLines_append_feed before⟩

/-- Blank lines put in front, between and behind lines, one of them within a segment, and a segment
    without content in front of a label line. -/
theorem parseLines_segments_blank_lines :
    (dropBlank ("flex\n//\n//B\nmt-4\nmb-2".toList.splitOn '\n') =
        dropBlank ("\u3000\nflex\n//\n\t\r\n//B\nmt-4\n\nmb-2\n ".toList.splitOn '\n') ∧
      parseLines "\u3000\nflex\n//\n\t\r\n//B\nmt-4\n\nmb-2\n ".toList =
        [⟨none, "flex".toList⟩, ⟨some "B".toList, "mt-4 mb-2".toList⟩]) ∧
    marker <+: "//B\nmt-4\nmb-2".toList ∧
    parseLines ("flex\n//".toList ++ '\n' :: "//B\nmt-4\nmb-2".toList) =
      [⟨none, "flex".toList⟩] ++ [⟨some "B".toList, "mt-4 mb-2".toList⟩] := by
  obtain ⟨hsegments, hblank, _, happend⟩ := parseLines_segments
  have hrows : dropBlank ("flex\n//\n//B\nmt-4\nmb-2".toList.splitOn '\n') =
      dropBlank ("\u3000\nflex\n//\n\t\r\n//B\nmt-4\n\nmb-2\n ".toList.splitOn '\n') := by
    decide
  have hmarker : marker <+: "//B\nmt-4\nmb-2".toList := ⟨_, rfl⟩
  refine ⟨⟨hrows, ?_⟩, hmarker, ?_⟩
  · rw [← hblank _ _ hrows, hsegments]
    decide
  · rw [happend _ _ hmarker, hsegments, hsegments]
    decide

end Section

end ClassList
