import ClassList.Call.Arguments
import ClassList.Catalog.Standard
import ClassList.Proofs.Layout.Collapse
import ClassList.Proofs.Text.Join
import ClassList.Proofs.Text.Literal

namespace ClassList

namespace Call

theorem isBlank_of_endsLine {c : Char} (h : endsLine c = true) : Text.isBlank c = true := by
  simp only [endsLine, Bool.or_eq_true, beq_iff_eq] at h
  rcases h with ((rfl | rfl) | rfl) | rfl <;> decide

@[simp] theorem lexemes?_nil : lexemes? [] = some [] := by
  rw [lexemes?]

@[simp] theorem lexemes?_comma (text : Text) :
    lexemes? (',' :: text) = (lexemes? text).map (.comma :: ·) := by
  rw [lexemes?]

/-- A blank character is no part of a lexeme: it is none of those that lexemes and comments start
    with. -/
@[simp] theorem lexemes?_cons_blank {blank : Char} (h : Text.isBlank blank = true) (text : Text) :
    lexemes? (blank :: text) = lexemes? text := by
  have hne : ∀ c, Text.isBlank c = false → blank ≠ c := by
    rintro c hc rfl
    rw [h] at hc
    cases hc
  rw [lexemes?, if_pos h]
  · exact hne ',' (by decide)
  · exact hne '"' (by decide)
  · intro cs hslash
    exact absurd hslash (hne '/' (by decide))

theorem lexemes?_append_blanks {blanks : Text} (hblanks : ∀ c ∈ blanks, Text.isBlank c = true)
    (text : Text) : lexemes? (blanks ++ text) = lexemes? text := by
  induction blanks with
  | nil => rfl
  | cons blank blanks ih =>
    obtain ⟨hblank, hblanks⟩ := List.forall_mem_cons.mp hblanks
    simpa [hblank] using ih hblanks

/-- A line comment reaches to the first character that ends its line. -/
theorem lexemes?_comment {comment : Text} (hcomment : ∀ c ∈ comment, endsLine c = false)
    (text : Text) : lexemes? ('/' :: '/' :: (comment ++ '\n' :: text)) = lexemes? text := by
  have hdrop : (comment ++ '\n' :: text).dropWhile (fun c => !endsLine c) = '\n' :: text := by
    rw [List.dropWhile_append_of_pos, List.dropWhile_cons_of_neg (by decide)]
    intro c hc
    simp [hcomment c hc]
  rw [lexemes?, hdrop]
  simp

theorem lexemes?_literal {inside : Text} (hinside : ∀ c ∈ inside, endsLine c = false)
    (text : Text) : lexemes? ('"' :: (Text.escape inside ++ '"' :: text)) =
      (lexemes? text).map (.literal inside :: ·) := by
  rw [lexemes?]
  split
  · next heq =>
    rw [Text.readLiteral?_escape hinside] at heq
    cases heq
    rfl
  · next heq =>
    rw [Text.readLiteral?_escape hinside] at heq
    cases heq

/-- A section whose label and classes stay on one line of a script. -/
structure Unbroken (part : Section) : Prop where
  label : ∀ label, part.label = some label → ∀ c ∈ label, endsLine c = false
  classes : ∀ c ∈ part.classes, endsLine c = false

theorem isBlank_indent : ∀ c ∈ "    ".toList, Text.isBlank c = true :=
  List.all_eq_true.mp (by decide)

/-- An argument is one literal, whatever follows it. -/
theorem lexemes?_argument {part : Section} (hpart : Unbroken part) (text : Text) :
    lexemes? (argument part ++ text) =
      (lexemes? text).map (.literal part.classes :: ·) := by
  have hliteral : lexemes? ("    \"".toList ++ Text.escape part.classes ++ ['"'] ++ text) =
      (lexemes? text).map (.literal part.classes :: ·) := by
    have hsplit : "    \"".toList ++ Text.escape part.classes ++ ['"'] ++ text =
        "    ".toList ++ '"' :: (Text.escape part.classes ++ '"' :: text) := by simp
    rw [hsplit, lexemes?_append_blanks isBlank_indent, lexemes?_literal hpart.classes]
  unfold argument
  cases hlabel : part.label with
  | none => exact hliteral
  | some label =>
    have hcomment : ∀ c ∈ ' ' :: label, endsLine c = false :=
      List.forall_mem_cons.mpr ⟨by decide, hpart.label label hlabel⟩
    have hsplit : "    // ".toList ++ label ++ ['\n'] ++ "    \"".toList ++
          Text.escape part.classes ++ ['"'] ++ text =
        "    ".toList ++ '/' :: '/' :: ((' ' :: label) ++ '\n' ::
          ("    \"".toList ++ Text.escape part.classes ++ ['"'] ++ text)) := by simp
    rw [hsplit, lexemes?_append_blanks isBlank_indent, lexemes?_comment hcomment, hliteral]

theorem lexemes?_blanks {blanks : Text} (hblanks : ∀ c ∈ blanks, Text.isBlank c = true) :
    lexemes? blanks = some [] := by
  simpa using lexemes?_append_blanks hblanks []

/-- A comma and the line feed behind it are one lexeme. -/
theorem lexemes?_comma_feed (text : Text) :
    lexemes? (",\n".toList ++ text) = (lexemes? text).map (.comma :: ·) := by
  change lexemes? (',' :: '\n' :: text) = _
  simp

/-- The arguments of a call are their literals with commas between them. -/
theorem lexemes?_arguments {parts : List Section} (hparts : ∀ part ∈ parts, Unbroken part) :
    lexemes? (",\n".toList.intercalate (parts.map argument) ++ "\n  ".toList) =
      some ([Lexeme.comma].intercalate (parts.map fun part => [.literal part.classes])) := by
  have hclose : lexemes? "\n  ".toList = some [] :=
    lexemes?_blanks (List.all_eq_true.mp (by decide))
  induction parts with
  | nil => exact hclose
  | cons part rest ih =>
    obtain ⟨hpart, hrest⟩ := List.forall_mem_cons.mp hparts
    by_cases hempty : rest = []
    · subst hempty
      simp only [List.map_cons, List.map_nil, List.intercalate_singleton]
      rw [lexemes?_argument hpart, hclose]
      rfl
    · have hwritten : rest.map argument ≠ [] := by simpa using hempty
      have hread : (rest.map fun part => [Lexeme.literal part.classes]) ≠ [] := by
        simpa using hempty
      rw [List.map_cons, List.map_cons, List.intercalate_cons_of_ne_nil hwritten,
        List.intercalate_cons_of_ne_nil hread, List.append_assoc, List.append_assoc,
        lexemes?_argument hpart, lexemes?_comma_feed, ih hrest]
      rfl

theorem separated?_literal_comma (trailing : Bool) (text : Text) {lexemes : List Lexeme}
    (hne : lexemes ≠ []) :
    separated? trailing (.literal text :: .comma :: lexemes) =
      (separated? trailing lexemes).map (text :: ·) := by
  cases lexemes with
  | nil => exact absurd rfl hne
  | cons lexeme rest => rfl

theorem separated?_intercalate (trailing : Bool) (texts : List Text) :
    separated? trailing ([Lexeme.comma].intercalate (texts.map fun text => [.literal text])) =
      some texts := by
  induction texts with
  | nil => rfl
  | cons text rest ih =>
    cases rest with
    | nil => rfl
    | cons next others =>
      have hne : ((next :: others).map fun text => [Lexeme.literal text]) ≠ [] := by simp
      have hjoined : [Lexeme.comma].intercalate
          ((next :: others).map fun text => [Lexeme.literal text]) ≠ [] := by
        intro hnil
        rw [hnil] at ih
        cases ih
      rw [List.map_cons, List.intercalate_cons_of_ne_nil hne, List.append_assoc,
        List.singleton_append, List.singleton_append,
        separated?_literal_comma trailing text hjoined, ih]
      rfl

theorem readArguments?_arguments {parts : List Section} (hparts : ∀ part ∈ parts, Unbroken part)
    (trailing : Bool) :
    readArguments? trailing ('\n' :: (",\n".toList.intercalate (parts.map argument) ++
      "\n  ".toList)) = some (parts.map Section.classes) := by
  have hseparated := separated?_intercalate trailing (parts.map Section.classes)
  rw [List.map_map] at hseparated
  rw [readArguments?, lexemes?_cons_blank Text.isBlank_feed, lexemes?_arguments hparts]
  exact hseparated

theorem separated?_flatMap (texts : List Text) :
    separated? true (texts.flatMap fun text => [.literal text, .comma]) = some texts := by
  induction texts with
  | nil => rfl
  | cons text rest ih =>
    by_cases hempty : rest = []
    · subst hempty
      rfl
    · have hne : (rest.flatMap fun text => [Lexeme.literal text, .comma]) ≠ [] := by
        simpa using List.exists_mem_of_ne_nil rest hempty
      rw [List.flatMap_cons, List.cons_append, List.singleton_append,
        separated?_literal_comma true text hne, ih]
      rfl

end Call

/-- A bucket stands in an element as its section does in a call, with a comma behind it. -/
theorem Bucket.argument_eq (bucket : Bucket) :
    bucket.argument = Call.argument ⟨some bucket.label, bucket.joined⟩ ++ ",\n".toList := by
  have hclose : "\",\n".toList = ['"'] ++ ",\n".toList := by decide
  unfold Bucket.argument Call.argument
  simp only [List.append_assoc, hclose]

namespace Call

theorem lexemes?_flatMap_argument {buckets : List Bucket}
    (hbuckets : ∀ bucket ∈ buckets, Unbroken ⟨some bucket.label, bucket.joined⟩) :
    lexemes? (buckets.flatMap Bucket.argument ++ "  ".toList) =
      some ((buckets.map Bucket.joined).flatMap fun text => [.literal text, .comma]) := by
  induction buckets with
  | nil => exact lexemes?_blanks (List.all_eq_true.mp (by decide))
  | cons bucket rest ih =>
    obtain ⟨hbucket, hrest⟩ := List.forall_mem_cons.mp hbuckets
    rw [List.flatMap_cons, Bucket.argument_eq, List.append_assoc, List.append_assoc,
      lexemes?_argument hbucket, lexemes?_comma_feed, ih hrest]
    rfl

theorem readArguments?_flatMap_argument {buckets : List Bucket}
    (hbuckets : ∀ bucket ∈ buckets, Unbroken ⟨some bucket.label, bucket.joined⟩) :
    readArguments? true ('\n' :: (buckets.flatMap Bucket.argument ++ "  ".toList)) =
      some (buckets.map Bucket.joined) := by
  rw [readArguments?, lexemes?_cons_blank Text.isBlank_feed, lexemes?_flatMap_argument hbuckets]
  exact separated?_flatMap _

end Call

namespace Catalog

theorem endsLine_label_standard {label : Text} (hlabel : label ∈ standard.labels) :
    ∀ c ∈ label, Call.endsLine c = false := by
  have hall : standard.labels.all (fun label => label.all fun c => !Call.endsLine c) = true := by
    decide +kernel
  intro c hc
  have h := List.all_eq_true.mp (List.all_eq_true.mp hall label hlabel) c hc
  simpa using h

/-- Every character that ends a line of a script is blank, and tokens hold no blank at all. -/
theorem endsLine_joined {catalog : Catalog} {text : Text} {bucket : Bucket}
    (hbucket : bucket ∈ (catalog.arrange text).buckets) :
    ∀ c ∈ bucket.joined, Call.endsLine c = false := by
  intro c hc
  rcases Text.mem_join hc with rfl | ⟨token, htoken, hmem⟩
  · decide
  · have hblank := (isWord_of_mem_bucket hbucket htoken).2 c hmem
    by_contra hends
    rw [Call.isBlank_of_endsLine (by simpa using hends)] at hblank
    cases hblank

theorem unbroken_standard {text : Text} {bucket : Bucket}
    (hbucket : bucket ∈ (standard.arrange text).buckets) :
    Call.Unbroken ⟨some bucket.label, bucket.joined⟩ := by
  constructor
  · intro label hlabel
    cases hlabel
    exact endsLine_label_standard (label_mem_labels hbucket)
  · exact endsLine_joined hbucket

/-- What a script reads from written classes are the classes. A class list of two or more groups
    is written as a call, and between its parentheses a script reads the classes of the buckets
    as string arguments, in their order. It reads the same from the call in an element, whatever
    number of groups there is, where a comma may follow the last argument. -/
theorem arguments_read_back :
    (∀ utility text, 2 ≤ (standard.arrange text).size →
      ∃ arguments,
        standard.writeCommented utility text =
          Call.head utility ++ arguments ++ ")\x7d".toList ∧
        Call.readArguments? false arguments =
          some ((standard.arrange text).buckets.map Bucket.joined)) ∧
    ∀ component utility text,
      ∃ arguments,
        standard.writeElement component utility text =
          '<' :: component ++ "\n  className=".toList ++ Call.head utility ++ arguments ++
            ")\x7d\n/>".toList ∧
        Call.readArguments? true arguments =
          some ((standard.arrange text).buckets.map Bucket.joined) := by
  constructor
  · intro utility text hsize
    have hparts : ∀ part ∈ (standard.arrange text).sections, Call.Unbroken part := by
      intro part hpart
      obtain ⟨bucket, hbucket, rfl⟩ := List.mem_map.mp hpart
      exact unbroken_standard hbucket
    refine ⟨_, ?_, (Call.readArguments?_arguments hparts false).trans ?_⟩
    · rw [writeCommented_of_two_le_size utility hsize, Call.render]
      simp
    · rw [Arrangement.sections, List.map_map]
      rfl
  · intro component utility text
    refine ⟨_, ?_, Call.readArguments?_flatMap_argument fun _ => unbroken_standard⟩
    rw [writeElement, Element.render]
    simp

/-- A token with a quote, two slashes and a comma in it and a backslash at its end. -/
theorem arguments_read_back_quotes :
    2 ≤ (standard.arrange "top-\"//,\\ flex".toList).size ∧
    ∃ arguments,
      standard.writeCommented "cn".toList "top-\"//,\\ flex".toList =
        Call.head "cn".toList ++ arguments ++ ")\x7d".toList ∧
      Call.readArguments? false arguments = some ["flex".toList, "top-\"//,\\".toList] := by
  have hbuckets : (standard.arrange "top-\"//,\\ flex".toList).buckets.map Bucket.joined =
      ["flex".toList, "top-\"//,\\".toList] := by
    decide +kernel
  have hsize : 2 ≤ (standard.arrange "top-\"//,\\ flex".toList).size := by
    have hlength := congrArg List.length hbuckets
    rw [List.length_map] at hlength
    rw [Arrangement.size, hlength]
    decide
  obtain ⟨arguments, hwritten, hread⟩ := arguments_read_back.1 "cn".toList _ hsize
  rw [hbuckets] at hread
  exact ⟨hsize, arguments, hwritten, hread⟩

end Catalog

end ClassList
