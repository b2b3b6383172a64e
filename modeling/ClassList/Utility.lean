import ClassList.Text.Literal

namespace ClassList

/-- A part of a configuration that is refused, with the text that was given for it. -/
inductive Error where
  /-- No layout has this name. -/
  | unknownLayout (name : Text)
  /-- A utility cannot be called by this name. -/
  | invalidUtilityName (name : Text)
  /-- An element cannot have this name. -/
  | invalidComponentName (name : Text)
deriving DecidableEq

/-- The wording of an error. -/
def Error.message : Error → Text
  | unknownLayout name =>
    "unknown format: ".toList ++ Text.quote name ++
      " (expected one of: auto, inline, multiline, with-comments)".toList
  | invalidUtilityName name => "invalid utility function name: ".toList ++ Text.quote name
  | invalidComponentName name => "invalid component name: ".toList ++ Text.quote name

/-- A utility, where it is imported from, and whether the import is already there. -/
structure Utility where
  name : Text
  importPath : Option Text
  imported : Bool
deriving DecidableEq

namespace Utility

/-- Whether a character can start an identifier. Identifiers are written in ASCII. -/
def startsName (c : Char) : Bool :=
  c.isAlpha || c == '_' || c == '$'

/-- Whether a character can stand in an identifier after its start. -/
def continuesName (c : Char) : Bool :=
  startsName c || c.isDigit

/-- Whether a text completes a dotted path of identifiers. The flag says that an identifier has
    to start here, as it does at the start of a path and behind a dot. -/
def completesPath : Bool → Text → Bool
  | fresh, [] => !fresh
  | true, c :: cs => startsName c && completesPath false cs
  | false, '.' :: cs => completesPath true cs
  | false, c :: cs => continuesName c && completesPath false cs

/-- A dot ends an identifier and starts the next, wherever in a path it stands. -/
theorem completesPath_append_dot (fresh : Bool) (before after : Text) :
    completesPath fresh (before ++ '.' :: after) =
      (completesPath fresh before && completesPath true after) := by
  fun_induction completesPath fresh before with
  | case1 fresh =>
    cases fresh with
    | true => rfl
    | false => rfl
  | case2 c cs ih => rw [List.cons_append, completesPath, ih, Bool.and_assoc]
  | case3 cs ih => rw [List.cons_append, completesPath, ih]
  | case4 c cs hdot ih =>
    rw [List.cons_append, completesPath, ih, Bool.and_assoc]
    exact hdot

/-- A path of identifiers holds no other characters than theirs and dots, whether an identifier has
    to start there or not. -/
theorem not_mem_of_completesPath {c : Char} (hc : continuesName c = false) (hdot : c ≠ '.')
    {fresh : Bool} {name : Text} (h : completesPath fresh name = true) : c ∉ name := by
  fun_induction completesPath fresh name with
  | case1 fresh => exact List.not_mem_nil
  | case2 d ds ih =>
    obtain ⟨hstart, hrest⟩ := Bool.and_eq_true_iff.mp h
    apply List.not_mem_cons_of_ne_of_not_mem _ (ih hrest)
    rintro rfl
    simp [continuesName, hstart] at hc
  | case3 ds ih => exact List.not_mem_cons_of_ne_of_not_mem hdot (ih h)
  | case4 d ds _ ih =>
    obtain ⟨hcontinue, hrest⟩ := Bool.and_eq_true_iff.mp h
    apply List.not_mem_cons_of_ne_of_not_mem _ (ih hrest)
    rintro rfl
    rw [hc] at hcontinue
    cases hcontinue

/-- Whether a text is an identifier or a dotted path of identifiers. -/
def isName (name : Text) : Bool :=
  completesPath true name

/-- A utility of a name, not imported and from no known place. -/
def ofName (name : Text) : Except Error Utility :=
  if isName name then .ok ⟨name, none, false⟩ else .error (.invalidUtilityName name)

@[simp] theorem ofName_eq_ok_iff {name : Text} {utility : Utility} :
    ofName name = .ok utility ↔ utility = ⟨name, none, false⟩ ∧ isName name = true := by
  unfold ofName
  split
  · next hname => simp [hname, eq_comm]
  · next hname => simp [hname]

@[simp] theorem ofName_eq_error_iff {name : Text} {cause : Error} :
    ofName name = .error cause ↔ cause = .invalidUtilityName name ∧ ¬ isName name = true := by
  unfold ofName
  split
  · next hname => simp [hname]
  · next hname => simp [hname, eq_comm]

/-- Only the name decides whether there is a utility of that name. -/
theorem exists_ofName_eq_ok_iff {name : Text} :
    (∃ utility, ofName name = .ok utility) ↔ isName name = true := by
  simp

/-- The utility that is called when none is chosen. -/
def standard : Utility :=
  ⟨"clsx".toList, some "clsx".toList, false⟩

/-- A utility with the place that it is imported from. -/
def withImportPath (utility : Utility) (path : Text) : Utility :=
  { utility with importPath := some path }

/-- A utility with the mark whether its import is already there. -/
def withImported (utility : Utility) (imported : Bool) : Utility :=
  { utility with imported }

/-- Refuses a utility that cannot be called by its name. -/
def validate (utility : Utility) : Except Error Unit :=
  if isName utility.name then .ok () else .error (.invalidUtilityName utility.name)

@[simp] theorem validate_eq_ok_iff {utility : Utility} :
    utility.validate = .ok () ↔ isName utility.name = true := by
  unfold validate
  split
  · next h => simp [h]
  · next h => simp [h]

@[simp] theorem validate_eq_error_iff {utility : Utility} {cause : Error} :
    utility.validate = .error cause ↔
      cause = .invalidUtilityName utility.name ∧ ¬ isName utility.name = true := by
  unfold validate
  split
  · next h => simp [h]
  · next h => simp [h, eq_comm]

/-- A way to choose the utility for a place in a program. It may find none. -/
structure Resolver where
  choose : Unit → Except Error Utility

/-- The resolver that always chooses one utility. -/
def Resolver.fixed (utility : Utility) : Resolver where
  choose _ := .ok utility

/-- The chosen utility. Its name is checked here, since a resolver may choose any. -/
def Resolver.resolve (resolver : Resolver) : Except Error Utility := do
  let utility ← resolver.choose ()
  utility.validate
  return utility

end Utility

end ClassList
