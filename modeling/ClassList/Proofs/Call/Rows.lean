import ClassList.Proofs.Call.Reading
import ClassList.Proofs.Section.Segments
import Mathlib.Tactic.TFAE

namespace ClassList

namespace Call

/-- The line of a label, if there is one. -/
def commentRows (part : Section) : List Text :=
  part.label.toList.map fun label => "    // ".toList ++ label

/-- The line of a literal. -/
def literalRow (part : Section) : Text :=
  "    \"".toList ++ (Text.escape part.classes ++ ['"'])

/-- The lines of arguments. All but the last end with a comma, and without arguments there is an
    empty line. -/
def argumentRows : List Section → List Text
  | [] => [[]]
  | [last] => commentRows last ++ [literalRow last]
  | part :: next :: rest =>
    commentRows part ++ [literalRow part ++ [',']] ++ argumentRows (next :: rest)

/-- The lines that a call is written on. -/
def rows (call : Call) : List Text :=
  head call.utility :: argumentRows call.sections ++ ["  )\x7d".toList]

theorem argument_eq (part : Section) :
    argument part = (commentRows part).flatMap (· ++ ['\n']) ++ literalRow part := by
  obtain ⟨label, classes⟩ := part
  cases label with
  | none =>
    simp only [argument, List.append_assoc]
    rfl
  | some label =>
    have hrows : (commentRows ⟨some label, classes⟩).flatMap (· ++ ['\n']) =
        "    // ".toList ++ label ++ ['\n'] :=
      List.append_nil _
    rw [hrows]
    simp only [argument, List.append_assoc]
    rfl

theorem argument_append_eq_join (part : Section) (after : Text) :
    argument part ++ after = Text.join '\n' (commentRows part ++ [literalRow part ++ after]) := by
  rw [Text.join_concat, argument_eq, List.append_assoc]

@[simp] theorem argumentRows_ne_nil (parts : List Section) : argumentRows parts ≠ [] := by
  fun_cases argumentRows parts with
  | case1 => exact List.cons_ne_nil _ _
  | case2 last => exact List.append_ne_nil_of_right_ne_nil _ (List.cons_ne_nil _ _)
  | case3 part next rest =>
    apply List.append_ne_nil_of_left_ne_nil
    exact List.append_ne_nil_of_right_ne_nil _ (List.cons_ne_nil _ _)

theorem intercalate_argument_eq_join (parts : List Section) :
    ",\n".toList.intercalate (parts.map argument) = Text.join '\n' (argumentRows parts) := by
  fun_induction argumentRows parts with
  | case1 => rfl
  | case2 last => simpa using argument_append_eq_join last []
  | case3 part next rest ih =>
    have hrows := argument_append_eq_join part [',']
    have hpart : commentRows part ++ [literalRow part ++ [',']] ≠ [] :=
      List.append_ne_nil_of_right_ne_nil _ (List.cons_ne_nil _ _)
    rw [Text.join_append hpart (argumentRows_ne_nil _), ← hrows, ← ih, List.map_cons,
      List.map_cons, List.intercalate_cons_cons, List.append_assoc, List.append_assoc]
    rfl

/-- A call is its lines, with line feeds between them. -/
theorem render_eq_join_rows (call : Call) : call.render = Text.join '\n' call.rows := by
  have hrest : argumentRows call.sections ++ ["  )\x7d".toList] ≠ [] := by simp
  rw [rows, List.cons_append, Text.join_cons_of_ne_nil _ hrest,
    Text.join_append (argumentRows_ne_nil _) (List.cons_ne_nil _ _), Text.join_singleton,
    ← intercalate_argument_eq_join, render, List.append_assoc, List.append_assoc]
  rfl

theorem endsLine_escape_iff {text : Text} :
    (∀ c ∈ Text.escape text, endsLine c = false) ↔ ∀ c ∈ text, endsLine c = false := by
  constructor
  · intro hescape c hc
    apply hescape
    rw [Text.escape, List.mem_flatMap]
    refine ⟨c, hc, ?_⟩
    unfold Text.escapeChar
    split <;> simp
  · intro htext c hc
    obtain ⟨d, hd, hmem⟩ := List.mem_flatMap.mp hc
    unfold Text.escapeChar at hmem
    split at hmem
    · rcases List.mem_cons.mp hmem with rfl | hmem
      · decide
      · rw [List.mem_singleton.mp hmem]
        exact htext d hd
    · rw [List.mem_singleton.mp hmem]
      exact htext d hd

/-- What the writer puts around labels and classes stays on its line. -/
theorem endsLine_frame :
    (∀ c ∈ "    // ".toList, endsLine c = false) ∧ (∀ c ∈ "    \"".toList, endsLine c = false) ∧
    (∀ c ∈ ['"'], endsLine c = false) ∧ (∀ c ∈ [','], endsLine c = false) ∧
    ∀ c ∈ "  )\x7d".toList, endsLine c = false := by
  have hall : ["    // ".toList, "    \"".toList, ['"'], [','], "  )\x7d".toList].all
      (fun text => text.all fun c => !endsLine c) = true := by
    decide
  simpa using hall

theorem endsLine_literalRow_iff {part : Section} :
    (∀ c ∈ literalRow part, endsLine c = false) ↔ ∀ c ∈ part.classes, endsLine c = false := by
  obtain ⟨_, hindent, hquote, _⟩ := endsLine_frame
  change (∀ c ∈ "    \"".toList ++ (Text.escape part.classes ++ ['"']), endsLine c = false) ↔ _
  rw [List.forall_mem_append, List.forall_mem_append, endsLine_escape_iff, and_iff_right hindent,
    and_iff_left hquote]

theorem endsLine_commentRows_iff {part : Section} :
    (∀ row ∈ commentRows part, ∀ c ∈ row, endsLine c = false) ↔
      ∀ label, part.label = some label → ∀ c ∈ label, endsLine c = false := by
  obtain ⟨hindent, _⟩ := endsLine_frame
  cases hlabel : part.label with
  | none => simp [commentRows, hlabel]
  | some label =>
    have hrows : commentRows part = ["    // ".toList ++ label] := by
      rw [commentRows, hlabel]
      rfl
    rw [hrows, List.forall_mem_singleton, List.forall_mem_append, and_iff_right hindent]
    constructor
    · rintro hlabel _ ⟨⟩
      exact hlabel
    · intro h
      exact h label rfl

theorem endsLine_argumentRows_iff {parts : List Section} :
    (∀ row ∈ argumentRows parts, ∀ c ∈ row, endsLine c = false) ↔
      ∀ part ∈ parts, Unbroken part := by
  have hunbroken : ∀ part : Section, Unbroken part ↔
      (∀ row ∈ commentRows part, ∀ c ∈ row, endsLine c = false) ∧
        ∀ c ∈ literalRow part, endsLine c = false := by
    intro part
    rw [endsLine_commentRows_iff, endsLine_literalRow_iff]
    exact ⟨fun h => ⟨h.label, h.classes⟩, fun h => ⟨h.1, h.2⟩⟩
  obtain ⟨_, _, _, hcomma, _⟩ := endsLine_frame
  fun_induction argumentRows parts with
  | case1 => simp
  | case2 last =>
    rw [List.forall_mem_append, List.forall_mem_singleton, List.forall_mem_singleton, hunbroken]
  | case3 part next rest ih =>
    rw [List.forall_mem_append, List.forall_mem_append, List.forall_mem_singleton,
      List.forall_mem_append, and_iff_left hcomma, List.forall_mem_cons, hunbroken part]
    exact and_congr_right fun _ => ih

/-- The lines that a script finds in a call are those it is written on exactly if its utility, its
    labels and its classes stay on one line each. -/
theorem splitOnP_render_eq_rows_iff (call : Call) :
    call.render.splitOnP endsLine = call.rows ↔
      (∀ c ∈ call.utility, endsLine c = false) ∧ ∀ part ∈ call.sections, Unbroken part := by
  obtain ⟨_, _, _, _, hclose⟩ := endsLine_frame
  have hrows : call.rows ≠ [] := List.append_ne_nil_of_right_ne_nil _ (List.cons_ne_nil _ _)
  have hhead : (∀ c ∈ head call.utility, endsLine c = false) ↔
      ∀ c ∈ call.utility, endsLine c = false := by
    have hopen : endsLine '{' = false := by decide
    have hparen : endsLine '(' = false := by decide
    rw [head, List.forall_mem_append, List.forall_mem_cons, List.forall_mem_singleton,
      and_iff_left hparen, and_iff_right hopen]
  rw [render_eq_join_rows, Text.splitOnP_join_eq_iff (by decide) hrows, rows,
    List.forall_mem_append, List.forall_mem_cons, hhead, endsLine_argumentRows_iff,
    List.forall_mem_singleton, and_iff_left hclose]

theorem unbroken_toSection_iff {segment : Section.Segment} :
    Unbroken segment.toSection ↔
      ∀ line ∈ segment.label.toList ++ segment.contents, ∀ c ∈ line, endsLine c = false := by
  constructor
  · intro hpart line hline
    rcases List.mem_append.mp hline with hlabel | hcontent
    · exact hpart.label line (Option.mem_toList.mp hlabel)
    · intro c hc
      exact hpart.classes c (Text.subset_join hcontent hc)
  · intro hlines
    constructor
    · intro label hlabel
      exact hlines label (List.mem_append_left _ (Option.mem_toList.mpr hlabel))
    · intro c hc
      rcases Text.mem_join hc with rfl | ⟨line, hline, hmem⟩
      · decide
      · exact hlines line (List.mem_append_right _ hline) c hmem

theorem endsLine_of_isName {name : Text} (hname : Utility.isName name = true) :
    ∀ c ∈ name, endsLine c = false := by
  intro c hc
  by_contra hends
  rw [Bool.not_eq_false] at hends
  -- no end of a line is among the characters that a name is made of
  have hforeign : Utility.continuesName c = false ∧ c ≠ '.' := by
    simp only [endsLine, Bool.or_eq_true, beq_iff_eq] at hends
    rcases hends with ((rfl | rfl) | rfl) | rfl <;> decide
  exact Utility.not_mem_of_completesPath hforeign.1 hforeign.2 hname hc

/-- When a call of parsed sections keeps its lines. A script finds the lines that the call is
    written on exactly if no label and no classes of the sections hold the end of a line, and that
    is so exactly if none stands within a label or a content line of a segment that is kept. A line
    feed never does, so it takes a carriage return, a line separator or a paragraph separator with
    something on both sides. Otherwise a script reads the classes of the sections. -/
theorem splitOnP_render_parseLines {utility : Text} (hname : Utility.isName utility = true)
    (text : Text) :
    List.TFAE [
      (Call.mk utility (Section.parseLines text)).render.splitOnP endsLine =
        (Call.mk utility (Section.parseLines text)).rows,
      ∀ part ∈ Section.parseLines text, Unbroken part,
      ∀ segment ∈ Section.segments (Text.lines text), Section.dropBlank segment.rows ≠ [] →
        ∀ line ∈ segment.label.toList ++ segment.contents, ∀ c ∈ line, endsLine c = false] ∧
    (∀ part ∈ Section.parseLines text,
      (∀ label, part.label = some label → '\n' ∉ label) ∧ '\n' ∉ part.classes) ∧
    ((∀ part ∈ Section.parseLines text, Unbroken part) →
      ∃ arguments,
        (Call.mk utility (Section.parseLines text)).render =
          head utility ++ arguments ++ ")\x7d".toList ∧
        readArguments? false arguments =
          some ((Section.parseLines text).map Section.classes)) := by
  refine ⟨?_, ?_, ?_⟩
  · tfae_have 1 ↔ 2 := by
      rw [splitOnP_render_eq_rows_iff]
      exact and_iff_right (endsLine_of_isName hname)
    tfae_have 2 ↔ 3 := by
      rw [Section.parseLines_eq_ofSegments]
      constructor
      · intro hparts segment hsegment hcontent
        rw [← unbroken_toSection_iff]
        exact hparts _ (Section.mem_ofSegments_iff.mpr ⟨segment, hsegment, hcontent, rfl⟩)
      · intro hsegments part hpart
        obtain ⟨segment, hsegment, hcontent, rfl⟩ := Section.mem_ofSegments_iff.mp hpart
        exact unbroken_toSection_iff.mpr (hsegments segment hsegment hcontent)
    tfae_finish
  · intro part hpart
    have hlegible := (Section.wellFormed_parseLines text).legible part hpart
    exact ⟨fun label hlabel => (hlegible.label label hlabel).feed_not_mem,
      hlegible.classes.feed_not_mem⟩
  · intro hparts
    refine ⟨_, ?_, readArguments?_arguments hparts false⟩
    rw [render]
    simp

/-- Lines with separators and carriage returns around labels and classes, and with one in the label
    of a segment that is dropped. -/
def paddedLines : Text :=
  "flex\u2028\r\n//\u2029 A \r\r\n\r mt-4 \"\n//x\ry\n".toList

theorem splitOnP_render_parseLines_paddedLines :
    Utility.isName "cn".toList = true ∧
    (∀ segment ∈ Section.segments (Text.lines paddedLines), Section.dropBlank segment.rows ≠ [] →
      ∀ line ∈ segment.label.toList ++ segment.contents, ∀ c ∈ line, endsLine c = false) ∧
    (Call.mk "cn".toList (Section.parseLines paddedLines)).render.splitOnP endsLine =
      ["\x7bcn(".toList, "    \"flex\",".toList, "    // A".toList, "    \"mt-4 \\\"\"".toList,
        "  )\x7d".toList] := by
  have hname : Utility.isName "cn".toList = true := by decide
  have hkept : (Section.segments (Text.lines paddedLines)).all (fun segment =>
      (Section.dropBlank segment.rows).isEmpty ||
        (segment.label.toList ++ segment.contents).all fun line =>
          line.all fun c => !endsLine c) = true := by
    decide +kernel
  have hsegments : ∀ segment ∈ Section.segments (Text.lines paddedLines),
      Section.dropBlank segment.rows ≠ [] →
      ∀ line ∈ segment.label.toList ++ segment.contents, ∀ c ∈ line, endsLine c = false := by
    intro segment hsegment hcontent line hline c hc
    have hsegment := Bool.or_eq_true_iff.mp (List.all_eq_true.mp hkept segment hsegment)
    have hlines := hsegment.resolve_left (by simpa using hcontent)
    simpa using List.all_eq_true.mp (List.all_eq_true.mp hlines line hline) c hc
  have hrows := ((splitOnP_render_parseLines hname paddedLines).1.out 0 2).mpr hsegments
  refine ⟨hname, hsegments, hrows.trans ?_⟩
  decide +kernel

/-- A call of parsed sections does not always keep its lines. A carriage return that no line feed
    follows is part of the classes, and stands in their literal as it is. -/
theorem exists_splitOnP_render_parseLines_ne_rows :
    ∃ text, text = "flex\rblock".toList ∧
      (Call.mk "cn".toList (Section.parseLines text)).render =
        "\x7bcn(\n    \"flex\rblock\"\n  )\x7d".toList ∧
      (Call.mk "cn".toList (Section.parseLines text)).render.splitOnP endsLine ≠
        (Call.mk "cn".toList (Section.parseLines text)).rows ∧
      readArguments? false "\n    \"flex\rblock\"\n  ".toList = none := by
  refine ⟨_, rfl, ?_, ?_, ?_⟩
  · decide +kernel
  · decide +kernel
  · decide +kernel

end Call

end ClassList
