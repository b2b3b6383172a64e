import ClassList.Catalog.Standard
import ClassList.Options
import ClassList.Text.Comment

namespace ClassList

/-- A replacement for an attribute value. -/
structure Fix where
  replacement : Text
  /-- The replacement is a call, and so takes the place of the whole value expression. -/
  expression : Bool
  /-- The replacement calls a utility that is not imported yet. -/
  needsImport : Bool
deriving DecidableEq

/-- The fix for a raw value, if it needs one, by a way to organize class lists. The value is
    cleaned of comments before it is organized. Grouped lines keep their labels, so in that
    layout the result is compared with the trimmed value, comments included; in the others it
    is compared with the cleaned value. A value without classes needs no fix. -/
def Fix.propose (options : Options) (organize : Text → Text) (value : Text) : Option Fix :=
  let cleaned := Text.clean value
  if cleaned.isEmpty then none
  else
    let replacement := organize cleaned
    let current := match options.layout with
      | .multiline => Text.trim value
      | _ => cleaned
    if replacement = current then none
    else
      let expression :=
        options.layout = .withComments && (Call.head options.utility.name).isPrefixOf replacement
      some ⟨replacement, expression, expression && !options.utility.imported⟩

/-- An organizer answers every question about class lists under its configuration. The answers
    need not follow from one another: an organizer may give its own to any of them. -/
structure Organizer where
  options : Options
  /-- A class list in the configured layout. -/
  organize : Text → Text
  /-- Several class lists in the configured layout, in the order given. -/
  organizeBatch : List Text → List Text
  /-- An element snippet with the class list. -/
  organizeElement : Text → Text
  /-- A fix for a raw attribute value, if it needs one. -/
  fix : Text → Option Fix

namespace Organizer

/-- The organizer whose answers all follow from its configuration and from the way it organizes
    a single class list. -/
def ofOrganize (options : Options) (organize : Text → Text) : Organizer where
  options := options
  organize := organize
  organizeBatch batch := batch.map organize
  organizeElement := Catalog.standard.writeElement options.component options.utility.name
  fix := Fix.propose options organize

/-- The organizer of a configuration, by the standard catalogue. The configuration is taken as
    it is. -/
def ofOptions (options : Options) : Organizer :=
  ofOrganize options (Catalog.standard.write options.layout options.utility.name)

/-- The organizer of a configuration that has been checked. -/
def build (options : Options) : Except Error Organizer := do
  options.validate
  return ofOptions options

/-- The organizer of a choice of layout and a resolver, with everything else left standard. -/
def buildResolved (choice : Layout.Choice) (resolver : Utility.Resolver) :
    Except Error Organizer := do
  let options ← ({ choice } : Options).change (.resolved resolver)
  build options

end Organizer

/-- The results of a function on a list, computed by tasks of their own, in the order of the
    list. -/
def mapTasks {α β : Type} (f : α → β) (xs : List α) : List β :=
  (xs.map fun x => Task.spawn fun _ => f x).map Task.get

/-- Waiting for a task gives what its computation gives. -/
@[simp] theorem mapTasks_eq_map {α β : Type} (f : α → β) (xs : List α) :
    mapTasks f xs = xs.map f := by
  simp [mapTasks, Task.spawn]

/-- An organizer that works on the class lists of a batch at the same time. Its configuration
    and the way it organizes a single class list are those of the organizer it is made from, and
    its other answers follow from these two. -/
def Organizer.parallel (inner : Organizer) : Organizer :=
  { ofOrganize inner.options inner.organize with
    organizeBatch := mapTasks inner.organize }

end ClassList
