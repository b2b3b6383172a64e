namespace ClassList

/-- Text is a list of characters, so that every reader and writer of this library is a
    recursion over the characters it consumes or produces. -/
abbrev Text := List Char

namespace Text

/-- Joins parts with a separator between neighbours. -/
def join (separator : Char) (parts : List Text) : Text :=
  [separator].intercalate parts

@[simp] theorem join_nil (separator : Char) : join separator [] = [] :=
  List.intercalate_nil

@[simp] theorem join_singleton (separator : Char) (part : Text) : join separator [part] = part :=
  List.intercalate_singleton

@[simp] theorem join_cons_cons (separator : Char) (first second : Text) (rest : List Text) :
    join separator (first :: second :: rest) =
      first ++ separator :: join separator (second :: rest) := by
  simp [join, List.intercalate_cons_cons]

/-- A line without the carriage return at its end, if it has one. Only one is taken off. -/
def dropReturn (line : Text) : Text :=
  if line.getLast? = some '\r' then line.dropLast else line

/-- The lines of a text. A line ends at a line feed, together with the carriage return right
    before it. Characters after the last line feed are a line of their own, kept as they are;
    when there are none, no line is counted there. -/
def lines (text : Text) : List Text :=
  let pieces := text.splitOn '\n'
  pieces.dropLast.map dropReturn ++ (pieces.getLast?.toList.filter fun last => !last.isEmpty)

end Text

end ClassList
