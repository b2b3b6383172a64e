import ClassList.Text.Blank

namespace ClassList.Text

/-- The text after a block comment, given the text after its opener. A block comment closes at
    its first star, which a slash has to follow; with any other character there the opener
    opens no comment. -/
def afterBlock? (body : Text) : Option Text :=
  match body.dropWhile (· != '*') with
  | '*' :: '/' :: rest => some rest
  | _ => none

/-- The text from the end of the current line on. -/
def afterLine (text : Text) : Text :=
  text.dropWhile (· != '\n')

theorem length_afterBlock? {body rest : Text} (h : afterBlock? body = some rest) :
    rest.length < body.length := by
  have hdrop := (List.dropWhile_suffix (· != '*') (l := body)).length_le
  unfold afterBlock? at h
  split at h
  · next heq =>
    cases h
    rw [heq] at hdrop
    simp only [List.length_cons] at hdrop
    omega
  · cases h

theorem length_afterLine_le (text : Text) : (afterLine text).length ≤ text.length :=
  (List.dropWhile_suffix _).length_le

/-- A text without its comments. The text is read once from left to right: a block comment is
    passed over to its end, a line comment up to the line feed, and every other character is
    kept, also the opener of a block comment that does not close. -/
def stripComments : Text → Text
  | [] => []
  | '/' :: '*' :: cs =>
    match _h : afterBlock? cs with
    | some rest => stripComments rest
    | none => '/' :: stripComments ('*' :: cs)
  | '/' :: '/' :: cs => stripComments (afterLine cs)
  | c :: cs => c :: stripComments cs
termination_by text => text.length
decreasing_by
  · have := length_afterBlock? _h
    simp only [List.length_cons]
    omega
  · simp
  · have := length_afterLine_le cs
    simp only [List.length_cons]
    omega
  · simp

/-- The class list in a raw attribute value: the value without comments, trimmed. -/
def clean (value : Text) : Text :=
  trim (stripComments value)

end ClassList.Text
