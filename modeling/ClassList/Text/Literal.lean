import ClassList.Text.Extending
import ClassList.Text.Unprintable

namespace ClassList.Text

/-- A character as it is written inside a double-quoted literal: a backslash stands in front of
    a backslash and of a double quote. -/
def escapeChar (c : Char) : Text :=
  if c = '\\' ∨ c = '"' then ['\\', c] else [c]

/-- A text as it is written inside a double-quoted literal. -/
def escape (text : Text) : Text :=
  text.flatMap escapeChar

/-- The inside of a literal whose opening quote has been read, and the text after its closing
    quote. A backslash makes the next character part of the literal. A literal does not go on
    past a character that breaks it, nor past the end of the text. -/
def readLiteral? (breaks : Char → Bool) : Text → Option (Text × Text)
  | [] => none
  | '"' :: after => some ([], after)
  | '\\' :: c :: cs =>
    if breaks c then none
    else (readLiteral? breaks cs).map fun (inside, after) => (c :: inside, after)
  | c :: cs =>
    if breaks c then none
    else (readLiteral? breaks cs).map fun (inside, after) => (c :: inside, after)

theorem length_readLiteral? {breaks : Char → Bool} {text inside after : Text}
    (h : readLiteral? breaks text = some (inside, after)) : after.length < text.length := by
  fun_induction readLiteral? breaks text generalizing inside after with
  | case1 => cases h
  | case2 cs =>
    cases h
    simp
  | case3 c cs hbreak => cases h
  | case4 c cs hbreak ih =>
    obtain ⟨⟨rest, tail⟩, hrest, heq⟩ := Option.map_eq_some_iff.mp h
    cases heq
    have hlt := ih hrest
    simp only [List.length_cons]
    omega
  | case5 c cs hquote hescape hbreak => cases h
  | case6 c cs hquote hescape hbreak ih =>
    obtain ⟨⟨rest, tail⟩, hrest, heq⟩ := Option.map_eq_some_iff.mp h
    cases heq
    have hlt := ih hrest
    simp only [List.length_cons]
    omega

/-- A code point in lowercase hexadecimal digits between braces, without leading zeros. -/
def codePoint (c : Char) : Text :=
  "\\u\x7b".toList ++ Nat.toDigits 16 c.toNat ++ "\x7d".toList

/-- A character as it is shown inside a quoted text. The null character and the common
    controls have short forms, a backslash and a double quote get a backslash, and a character
    that would not show or would attach to its neighbour is spelled by its code point. -/
def showChar (c : Char) : Text :=
  match c with
  | '\x00' => "\\0".toList
  | '\t' => "\\t".toList
  | '\n' => "\\n".toList
  | '\r' => "\\r".toList
  | _ =>
    if isExtending c || isUnprintable c then codePoint c
    else escapeChar c

/-- A text as it is shown in messages. -/
def quote (text : Text) : Text :=
  '"' :: text.flatMap showChar ++ ['"']

end ClassList.Text
