import ClassList.Text.Comment

namespace ClassList.Text

/-- A text cut at its first `*/`: what stands in front of it, and what stands behind. -/
def cutAtCloser? : Text → Option (Text × Text)
  | [] => none
  | '*' :: '/' :: rest => some ([], rest)
  | c :: cs => (cutAtCloser? cs).map fun (body, rest) => (c :: body, rest)

theorem length_cutAtCloser? {text body rest : Text} (h : cutAtCloser? text = some (body, rest)) :
    rest.length < text.length := by
  fun_induction cutAtCloser? text generalizing body with
  | case1 => cases h
  | case2 cs =>
    cases h
    simp only [List.length_cons]
    omega
  | case3 c cs hcloser ih =>
    obtain ⟨⟨inner, after⟩, hcut, heq⟩ := Option.map_eq_some_iff.mp h
    cases heq
    have hlt := ih hcut
    simp only [List.length_cons]
    omega

/-- What a text is made of. -/
inductive Piece where
  /-- A character outside of comments. -/
  | kept (c : Char)
  /-- A block comment with its body. -/
  | block (body : Text)
  /-- A line comment with its body. -/
  | line (body : Text)
deriving DecidableEq

/-- The pieces of a text, read once from left to right. A block comment reaches to the first `*/`
    behind its opener, whatever stands between them, and a line comment up to the line feed. Every
    other character is kept, also the opener of a block comment that does not close. -/
def pieces : Text → List Piece
  | [] => []
  | '/' :: '*' :: cs =>
    match _h : cutAtCloser? cs with
    | some (body, rest) => .block body :: pieces rest
    | none => .kept '/' :: pieces ('*' :: cs)
  | '/' :: '/' :: cs => .line (cs.takeWhile (· != '\n')) :: pieces (afterLine cs)
  | c :: cs => .kept c :: pieces cs
termination_by text => text.length
decreasing_by
  · have := length_cutAtCloser? _h
    simp only [List.length_cons]
    omega
  · simp
  · have := length_afterLine_le cs
    simp only [List.length_cons]
    omega
  · simp

/-- The character of a piece that is no comment. -/
def Piece.char? : Piece → Option Char
  | kept c => some c
  | block _ => none
  | line _ => none

/-- The body of a piece that is a block comment. -/
def Piece.blockBody? : Piece → Option Text
  | kept _ => none
  | block body => some body
  | line _ => none

/-- What is left of a text without the comments among its pieces. -/
def outsideComments (text : Text) : Text :=
  (pieces text).filterMap Piece.char?

/-- The bodies of the block comments of a text, in order. -/
def blockBodies (text : Text) : List Text :=
  (pieces text).filterMap Piece.blockBody?

end ClassList.Text
