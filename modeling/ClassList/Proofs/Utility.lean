import ClassList.Proofs.Text.Join
import ClassList.Text.Blank
import ClassList.Utility
import Mathlib.Computability.Language

open scoped Computability

namespace ClassList.Utility

/-- A letter of ASCII, an underscore or a dollar sign. -/
def OpensIdentifier (c : Char) : Prop :=
  ('A' ≤ c ∧ c ≤ 'Z') ∨ ('a' ≤ c ∧ c ≤ 'z') ∨ c = '_' ∨ c = '$'

/-- A character that may also open an identifier, or a digit of ASCII. -/
def ExtendsIdentifier (c : Char) : Prop :=
  OpensIdentifier c ∨ ('0' ≤ c ∧ c ≤ '9')

/-- An identifier is not empty, and only its first character cannot be a digit. -/
def IsIdentifier : Text → Prop
  | [] => False
  | first :: rest => OpensIdentifier first ∧ ∀ c ∈ rest, ExtendsIdentifier c

theorem startsName_iff {c : Char} : startsName c = true ↔ OpensIdentifier c := by
  have hupper : c.isUpper = true ↔ 'A' ≤ c ∧ c ≤ 'Z' := decide_eq_true_iff
  have hlower : c.isLower = true ↔ 'a' ≤ c ∧ c ≤ 'z' :=
    Bool.and_eq_true_iff.trans (and_congr decide_eq_true_iff decide_eq_true_iff)
  have halpha : c.isAlpha = true ↔ c.isUpper = true ∨ c.isLower = true := Bool.or_eq_true_iff
  simp only [startsName, OpensIdentifier, Bool.or_eq_true, beq_iff_eq, halpha, hupper, hlower,
    or_assoc]

theorem continuesName_iff {c : Char} : continuesName c = true ↔ ExtendsIdentifier c := by
  have hdigit : c.isDigit = true ↔ '0' ≤ c ∧ c ≤ '9' :=
    Bool.and_eq_true_iff.trans (and_congr decide_eq_true_iff decide_eq_true_iff)
  rw [continuesName, ExtendsIdentifier, Bool.or_eq_true, startsName_iff, hdigit]

theorem IsIdentifier.dot_not_mem {piece : Text} (hpiece : IsIdentifier piece) : '.' ∉ piece := by
  cases piece with
  | nil => cases hpiece
  | cons first rest =>
    obtain ⟨hfirst, hrest⟩ := hpiece
    rw [List.mem_cons, not_or]
    constructor
    · rintro rfl
      exact absurd (startsName_iff.mpr hfirst) (by decide)
    · intro hdot
      exact absurd (continuesName_iff.mpr (hrest '.' hdot)) (by decide)

theorem completesPath_false_iff {rest : Text} (hdot : '.' ∉ rest) :
    completesPath false rest = true ↔ ∀ c ∈ rest, ExtendsIdentifier c := by
  induction rest with
  | nil => simp [completesPath]
  | cons c cs ih =>
    obtain ⟨hc, hcs⟩ := not_or.mp (mt List.mem_cons.mpr hdot)
    rw [completesPath, Bool.and_eq_true, ih hcs, continuesName_iff, List.forall_mem_cons]
    exact fun h => hc h.symm

theorem isName_iff_of_dot_not_mem {piece : Text} (hdot : '.' ∉ piece) :
    isName piece = true ↔ IsIdentifier piece := by
  cases piece with
  | nil => simp [isName, completesPath, IsIdentifier]
  | cons first rest =>
    rw [isName, completesPath, Bool.and_eq_true, startsName_iff,
      completesPath_false_iff (List.not_mem_of_not_mem_cons hdot)]
    rfl

/-- A name is put together from identifiers with dots between them. -/
theorem isName_intercalate_iff {pieces : List Text} (hne : pieces ≠ [])
    (hdots : ∀ piece ∈ pieces, '.' ∉ piece) :
    isName (['.'].intercalate pieces) = true ↔ ∀ piece ∈ pieces, IsIdentifier piece := by
  induction pieces with
  | nil => exact absurd rfl hne
  | cons piece rest ih =>
    obtain ⟨hpiece, hrest⟩ := List.forall_mem_cons.mp hdots
    by_cases hlast : rest = []
    · subst hlast
      rw [List.intercalate_singleton, isName_iff_of_dot_not_mem hpiece]
      simp
    · rw [List.intercalate_cons_of_ne_nil hlast, List.append_assoc, List.singleton_append, isName,
        completesPath_append_dot, Bool.and_eq_true, List.forall_mem_cons]
      exact and_congr (isName_iff_of_dot_not_mem hpiece) (ih hlast hrest)

theorem isName_iff_splitOn {name : Text} :
    isName name = true ↔ ∀ piece ∈ name.splitOn '.', IsIdentifier piece := by
  have hdots : ∀ piece ∈ name.splitOn '.', '.' ∉ piece := by
    intro piece hpiece hdot
    have hseparates := Text.separates_of_mem_splitOnP hpiece '.' hdot
    exact absurd hseparates (by decide)
  have h := isName_intercalate_iff (List.splitOn_ne_nil '.' name) hdots
  rwa [List.intercalate_splitOn] at h

/-- The texts of one character of a kind. -/
def oneOf (belongs : Char → Prop) : Language Char :=
  {text | ∃ c, belongs c ∧ text = [c]}

/-- A character that opens an identifier, then any number of those that extend it. -/
def identifiers : Language Char :=
  oneOf OpensIdentifier * (oneOf ExtendsIdentifier)∗

/-- An identifier, then any number of times a dot and another identifier. -/
def paths : Language Char :=
  identifiers * ({['.']} * identifiers)∗

theorem mem_kstar_oneOf_iff {belongs : Char → Prop} {text : Text} :
    text ∈ (oneOf belongs)∗ ↔ ∀ c ∈ text, belongs c := by
  constructor
  · rintro ⟨parts, rfl, hparts⟩ c hc
    obtain ⟨part, hpart, hmem⟩ := List.mem_flatten.mp hc
    obtain ⟨d, hd, rfl⟩ := hparts part hpart
    rw [List.mem_singleton.mp hmem]
    exact hd
  · intro htext
    have hflatten : (text.map fun c => [c]).flatten = text := by
      rw [← List.flatMap_def, List.flatMap_singleton']
    rw [← hflatten]
    apply Language.join_mem_kstar
    intro part hpart
    obtain ⟨c, hc, rfl⟩ := List.mem_map.mp hpart
    exact ⟨c, htext c hc, rfl⟩

theorem mem_identifiers_iff {text : Text} : text ∈ identifiers ↔ IsIdentifier text := by
  rw [identifiers, Language.mem_mul]
  constructor
  · rintro ⟨_, ⟨first, hfirst, rfl⟩, rest, hrest, rfl⟩
    exact ⟨hfirst, mem_kstar_oneOf_iff.mp hrest⟩
  · intro htext
    cases text with
    | nil => cases htext
    | cons first rest =>
      obtain ⟨hfirst, hrest⟩ := htext
      exact ⟨[first], ⟨first, hfirst, rfl⟩, rest, mem_kstar_oneOf_iff.mpr hrest, rfl⟩

/-- What follows the first identifier of a path are further ones, each behind a dot. -/
theorem mem_kstar_dot_mul_iff {text : Text} :
    text ∈ ({['.']} * identifiers)∗ ↔
      ∃ pieces : List Text, text = pieces.flatMap (['.'] ++ ·) ∧
        ∀ piece ∈ pieces, IsIdentifier piece := by
  constructor
  · rintro ⟨parts, rfl, hparts⟩
    induction parts with
    | nil => exact ⟨[], rfl, by simp⟩
    | cons part rest ih =>
      obtain ⟨hpart, hrest⟩ := List.forall_mem_cons.mp hparts
      obtain ⟨_, rfl, piece, hpiece, rfl⟩ := Language.mem_mul.mp hpart
      obtain ⟨pieces, hpieces, hidentifiers⟩ := ih hrest
      refine ⟨piece :: pieces, by rw [List.flatten_cons, List.flatMap_cons, hpieces], ?_⟩
      exact List.forall_mem_cons.mpr ⟨mem_identifiers_iff.mp hpiece, hidentifiers⟩
  · rintro ⟨pieces, rfl, hpieces⟩
    rw [List.flatMap_def]
    apply Language.join_mem_kstar
    intro part hpart
    obtain ⟨piece, hpiece, rfl⟩ := List.mem_map.mp hpart
    exact Language.append_mem_mul rfl (mem_identifiers_iff.mpr (hpieces piece hpiece))

/-- The paths of the regular language are the names. -/
theorem mem_paths_iff {name : Text} : name ∈ paths ↔ isName name = true := by
  rw [paths, Language.mem_mul]
  constructor
  · rintro ⟨first, hfirst, _, hrest, rfl⟩
    obtain ⟨pieces, rfl, hpieces⟩ := mem_kstar_dot_mul_iff.mp hrest
    have hall : ∀ piece ∈ first :: pieces, IsIdentifier piece :=
      List.forall_mem_cons.mpr ⟨mem_identifiers_iff.mp hfirst, hpieces⟩
    have hdots : ∀ piece ∈ first :: pieces, '.' ∉ piece :=
      fun piece hpiece => (hall piece hpiece).dot_not_mem
    rw [← Text.intercalate_cons_eq_append_flatMap,
      isName_intercalate_iff (List.cons_ne_nil _ _) hdots]
    exact hall
  · intro hname
    obtain ⟨first, rest, hpieces⟩ :=
      List.exists_cons_of_ne_nil (List.splitOn_ne_nil '.' name)
    have hall := isName_iff_splitOn.mp hname
    rw [hpieces] at hall
    obtain ⟨hfirst, hrest⟩ := List.forall_mem_cons.mp hall
    refine ⟨first, mem_identifiers_iff.mpr hfirst, rest.flatMap (['.'] ++ ·),
      mem_kstar_dot_mul_iff.mpr ⟨rest, rfl, hrest⟩, ?_⟩
    rw [← Text.intercalate_cons_eq_append_flatMap, ← hpieces, List.intercalate_splitOn]

/-- The names of utilities are the dotted paths of identifiers. There is a utility of a name exactly
    if every piece of it between dots is an identifier, and then it is the one of that name with
    nothing else known; any other name is refused as it was given. So two names make a path exactly
    if both are names. The names are a regular language, and the check of a utility refuses exactly
    those that there is no utility of. -/
theorem ofName_accepts_paths :
    (∀ name,
      (∀ utility, ofName name = .ok utility ↔
        utility = ⟨name, none, false⟩ ∧ ∀ piece ∈ name.splitOn '.', IsIdentifier piece) ∧
      ∀ cause, ofName name = .error cause ↔
        cause = .invalidUtilityName name ∧ ¬ ∀ piece ∈ name.splitOn '.', IsIdentifier piece) ∧
    (∀ before after, (∃ utility, ofName (before ++ '.' :: after) = .ok utility) ↔
      (∃ utility, ofName before = .ok utility) ∧ ∃ utility, ofName after = .ok utility) ∧
    (∀ name, (∃ utility, ofName name = .ok utility) ↔ name ∈ paths) ∧
    ∀ utility : Utility,
      (utility.validate = .ok () ↔ ∃ accepted, ofName utility.name = .ok accepted) ∧
      ∀ cause, utility.validate = .error cause ↔ ofName utility.name = .error cause := by
  refine ⟨?_, ?_, ?_, ?_⟩
  · intro name
    rw [← isName_iff_splitOn]
    exact ⟨fun utility => ofName_eq_ok_iff, fun cause => ofName_eq_error_iff⟩
  · intro before after
    rw [exists_ofName_eq_ok_iff, exists_ofName_eq_ok_iff, exists_ofName_eq_ok_iff, isName,
      completesPath_append_dot, Bool.and_eq_true]
    rfl
  · intro name
    rw [exists_ofName_eq_ok_iff, mem_paths_iff]
  · intro utility
    constructor
    · rw [exists_ofName_eq_ok_iff, validate_eq_ok_iff]
    · intro cause
      rw [validate_eq_error_iff, ofName_eq_error_iff]

/-- Empty pieces, digits in front, letters that are not of ASCII and a line feed at the end. -/
example : isName "a1.$b._".toList = true ∧
    ∀ name ∈ ["", "cn.", "a..b", "a.1", "\u00e9", "cn\n"], isName name.toList = false := by
  decide

end ClassList.Utility
