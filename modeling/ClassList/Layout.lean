import ClassList.Arrangement.Sorting
import ClassList.Call
import ClassList.Utility

namespace ClassList

/-- A way to write a class list. -/
inductive Layout where
  /-- All classes on one line. -/
  | inline
  /-- Every group on a line of its own, under a line with its label. -/
  | multiline
  /-- A call of the utility, with every group as an argument under a comment. -/
  | withComments
deriving DecidableEq

namespace Layout

/-- Every layout, in declaration order. -/
def all : List Layout :=
  [inline, multiline, withComments]

/-- The layout that is used when none is chosen. -/
def standard : Layout :=
  inline

/-- The written name of a layout. -/
def name : Layout → Text
  | inline => "inline".toList
  | multiline => "multiline".toList
  | withComments => "with-comments".toList

/-- The layout of a written name. -/
def ofName (name : Text) : Except Error Layout :=
  match all.find? fun layout => layout.name == name with
  | some layout => .ok layout
  | none => .error (.unknownLayout name)

@[simp] theorem ofName_name (layout : Layout) : ofName layout.name = .ok layout := by
  cases layout <;> rfl

/-- A choice of layout, which may be left to the utility. -/
inductive Choice where
  /-- Comments are written when the utility is already imported. -/
  | auto
  /-- The layout is fixed. -/
  | always (layout : Layout)
deriving DecidableEq

namespace Choice

/-- Every choice, in declaration order. -/
def all : List Choice :=
  auto :: Layout.all.map always

/-- The choice that is made when none is given. -/
def standard : Choice :=
  auto

/-- The written name of a choice. -/
def name : Choice → Text
  | auto => "auto".toList
  | always layout => layout.name

/-- The choice of a written name. -/
def ofName (name : Text) : Except Error Choice :=
  match all.find? fun choice => choice.name == name with
  | some choice => .ok choice
  | none => .error (.unknownLayout name)

/-- The layout that a choice comes to for a utility. -/
def resolve (choice : Choice) (utility : Utility) : Layout :=
  match choice with
  | auto => if utility.imported then withComments else inline
  | always layout => layout

@[simp] theorem ofName_name (choice : Choice) : ofName choice.name = .ok choice := by
  cases choice with
  | auto => rfl
  | always layout => cases layout <;> rfl

end Choice

end Layout

/-- An arrangement as grouped lines. -/
def Arrangement.renderGrouped (arrangement : Arrangement) : Text :=
  Section.renderLines arrangement.sections

namespace Catalog

/-- A class list on one line, sorted by group. -/
def writeInline (catalog : Catalog) (text : Text) : Text :=
  (catalog.arrange text).renderInline

/-- A class list as grouped lines. -/
def writeGrouped (catalog : Catalog) (text : Text) : Text :=
  (catalog.arrange text).renderGrouped

/-- A class list as a call of a utility with commented arguments. With a single group only its
    classes are written, and a text without tokens stays as it is. -/
def writeCommented (catalog : Catalog) (utility text : Text) : Text :=
  (Call.mk utility (catalog.arrange text).sections).renderCollapsed.getD text

/-- A class list as the classes of an element. -/
def writeElement (catalog : Catalog) (component utility text : Text) : Text :=
  (Element.mk component utility (catalog.arrange text)).render

/-- A class list in a layout. The utility is called in the layout with comments only. -/
def write (catalog : Catalog) (layout : Layout) (utility text : Text) : Text :=
  match layout with
  | .inline => catalog.writeInline text
  | .multiline => catalog.writeGrouped text
  | .withComments => catalog.writeCommented utility text

end Catalog

end ClassList
