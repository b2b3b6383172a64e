import ClassList.Section
import ClassList.Text.Literal

namespace ClassList

/-- A call of a utility, with one argument for each section. -/
structure Call where
  utility : Text
  sections : List Section
deriving DecidableEq

namespace Call

/-- A section as an argument: the label as a line comment, if there is one, and under it the
    classes as a string literal. -/
def argument (part : Section) : Text :=
  let comment := match part.label with
    | some label => "    // ".toList ++ label ++ ['\n']
    | none => []
  comment ++ "    \"".toList ++ Text.escape part.classes ++ ['"']

/-- The text in front of the arguments, up to the parenthesis. -/
def head (utility : Text) : Text :=
  '{' :: utility ++ ['(']

/-- A call as an attribute value, with the arguments on lines of their own. A call without
    arguments leaves an empty line between its parentheses. -/
def render (call : Call) : Text :=
  head call.utility ++ ['\n'] ++ ",\n".toList.intercalate (call.sections.map argument) ++
    "\n  )\x7d".toList

/-- A call that says no more than its classes is not written out: without sections there is
    nothing to write, and the classes of a single section need no label. -/
def renderCollapsed (call : Call) : Option Text :=
  match call.sections with
  | [] => none
  | [only] => some only.classes
  | _ => some call.render

end Call

/-- An element of a component, whose classes are joined by a utility. -/
structure Element where
  component : Text
  utility : Text
  classes : Arrangement
deriving DecidableEq

/-- A bucket as an argument of the call, with a comma behind it. -/
def Bucket.argument (bucket : Bucket) : Text :=
  "    // ".toList ++ bucket.label ++ ['\n'] ++
    "    \"".toList ++ Text.escape bucket.joined ++ "\",\n".toList

/-- An element as text. Every argument has a comma behind it, and the call is written out
    however few arguments it has. -/
def Element.render (element : Element) : Text :=
  '<' :: element.component ++ "\n  className=".toList ++ Call.head element.utility ++ ['\n'] ++
    element.classes.buckets.flatMap Bucket.argument ++ "  )\x7d\n/>".toList

end ClassList
