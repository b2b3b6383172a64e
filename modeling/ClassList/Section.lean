import ClassList.Arrangement.Basic
import ClassList.Text.Blank

namespace ClassList

/-- Classes under a label. Classes that stand in front of the first label have none. -/
structure Section where
  label : Option Text
  classes : Text
deriving DecidableEq

/-- The sections of an arrangement, one for each bucket, all of them labelled. -/
def Arrangement.sections (arrangement : Arrangement) : List Section :=
  arrangement.buckets.map fun bucket => ⟨some bucket.label, bucket.joined⟩

namespace Section

/-- What a label line starts with. -/
def marker : Text :=
  "//".toList

/-- The line that classes are written on. Classes that start like a label line are indented by
    one space, so that they read back as classes. -/
def classLine (classes : Text) : Text :=
  if marker.isPrefixOf classes then ' ' :: classes else classes

/-- The lines of a section. -/
def lines (part : Section) : List Text :=
  match part.label with
  | some label => [marker ++ ' ' :: label, classLine part.classes]
  | none => [classLine part.classes]

/-- Sections as lines of text, without a line feed at the end. A line that starts with two slashes
    gives the label of the lines after it, and every other line holds classes. -/
def renderLines (parts : List Section) : Text :=
  Text.join '\n' (parts.flatMap lines)

/-- How far lines have been read: the sections already closed, and the label and the class lines
    of the section that is still open. -/
structure Reader where
  closed : List Section
  label : Option Text
  pending : List Text

namespace Reader

/-- Nothing has been read yet. -/
def start : Reader :=
  ⟨[], none, []⟩

/-- The sections read so far. An open section without class lines is dropped; the class lines of
    one section are joined by single spaces. -/
def sections (reader : Reader) : List Section :=
  if reader.pending.isEmpty then reader.closed
  else reader.closed ++ [⟨reader.label, Text.join ' ' reader.pending⟩]

/-- Reads one more line. A label line closes the open section. Blank lines say nothing, and do
    not close a section either. -/
def read (reader : Reader) (line : Text) : Reader :=
  match line with
  | '/' :: '/' :: label => ⟨reader.sections, some (Text.trim label), []⟩
  | _ =>
    let content := Text.trim line
    if content.isEmpty then reader else { reader with pending := reader.pending ++ [content] }

end Reader

/-- The sections of a text. -/
def parseLines (text : Text) : List Section :=
  ((Text.lines text).foldl Reader.read Reader.start).sections

end Section

end ClassList
