import ClassList.Text.Blank
import ClassList.Text.Literal

namespace ClassList.Call

/-- The characters that end a line of a script. -/
def endsLine (c : Char) : Bool :=
  c == '\n' || c == '\r' || c == '\u2028' || c == '\u2029'

/-- What an argument list is made of. -/
inductive Lexeme where
  | literal (text : Text)
  | comma
deriving DecidableEq

/-- The lexemes of a text. White space is skipped, and so is a line comment up to the end of its
    line. A literal has to close on its line. Nothing else may stand in the text. -/
def lexemes? : Text → Option (List Lexeme)
  | [] => some []
  | ',' :: cs => (lexemes? cs).map (.comma :: ·)
  | '"' :: cs =>
    match _h : Text.readLiteral? endsLine cs with
    | some (inside, after) => (lexemes? after).map (.literal inside :: ·)
    | none => none
  | '/' :: '/' :: cs => lexemes? (cs.dropWhile fun c => !endsLine c)
  | c :: cs => if Text.isBlank c then lexemes? cs else none
termination_by text => text.length
decreasing_by
  · simp
  · have := Text.length_readLiteral? _h
    simp only [List.length_cons]
    omega
  · have := (List.dropWhile_suffix (fun c => !endsLine c) (l := cs)).length_le
    simp only [List.length_cons]
    omega
  · simp

/-- The texts of literals with a comma between neighbours. The flag says whether a comma may
    follow the last of them. -/
def separated? (trailing : Bool) : List Lexeme → Option (List Text)
  | [] => some []
  | [.literal text] => some [text]
  | [.literal text, .comma] => if trailing then some [text] else none
  | .literal text :: .comma :: lexemes => (separated? trailing lexemes).map (text :: ·)
  | _ => none

/-- The string arguments in a text that stands between the parentheses of a call. -/
def readArguments? (trailing : Bool) (text : Text) : Option (List Text) :=
  (lexemes? text).bind (separated? trailing)

end ClassList.Call
