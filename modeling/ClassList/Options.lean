import ClassList.Layout
import ClassList.Text.Blank

namespace ClassList

/-- How class lists are written: in which layout, with which utility in calls, and as the
    classes of which component in element snippets. -/
structure Options where
  choice : Layout.Choice := .standard
  utility : Utility := .standard
  component : Text := "select".toList
deriving DecidableEq

namespace Options

/-- The layout that class lists are written in. -/
def layout (options : Options) : Layout :=
  options.choice.resolve options.utility

/-- Refuses a configuration that cannot be written out. The utility is checked first, then the
    component, whose name has to be a single word. -/
def validate (options : Options) : Except Error Unit := do
  options.utility.validate
  if options.component.isEmpty || options.component.any Text.isBlank then
    throw (.invalidComponentName options.component)

/-- One step in building a configuration. -/
inductive Change where
  | choice (choice : Layout.Choice)
  | utility (utility : Utility)
  | resolved (resolver : Utility.Resolver)
  | component (name : Text)

/-- The configuration after a change. It fails only if a resolver does. -/
def change (options : Options) : Change → Except Error Options
  | .choice choice => .ok { options with choice }
  | .utility utility => .ok { options with utility }
  | .resolved resolver => do return { options with utility := ← resolver.resolve }
  | .component name => .ok { options with component := name }

/-- The configuration after a run of changes. A change that fails is passed over. -/
def changeAll (options : Options) (changes : List Change) : Options :=
  changes.foldl (fun current step => (current.change step).toOption.getD current) options

end Options

end ClassList
