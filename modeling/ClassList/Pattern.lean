import ClassList.Text.Basic

namespace ClassList

/-- Whether a part stands in a text, at any place. -/
def Text.occursIn (part : Text) : Text → Bool
  | [] => part.isEmpty
  | c :: cs => part.isPrefixOf (c :: cs) || occursIn part cs

@[simp] theorem Text.occursIn_iff_isInfix {part text : Text} :
    part.occursIn text = true ↔ part <:+: text := by
  induction text with
  | nil => simp [occursIn]
  | cons c cs ih =>
    rw [occursIn, Bool.or_eq_true, List.isPrefixOf_iff_prefix, ih, List.infix_cons_iff]

/-- The utility of a class name. A name may carry variants in front of its utility, each closed by
    a colon, as in `hover:flex`. The utility is what follows the last colon, or the whole name
    without one. -/
def utilityPart (token : Text) : Text :=
  (token.reverse.takeWhile (· != ':')).reverse

/-- A pattern is written as the text that it looks for. -/
structure Pattern where
  text : Text
deriving DecidableEq

namespace Pattern

/-- How a pattern is compared with a token. -/
inductive Kind where
  /-- The token has the text of the pattern in it, at any place. -/
  | family
  /-- The token, or its utility, is the text of the pattern. -/
  | single
deriving DecidableEq

/-- A pattern that ends in a hyphen or a colon names a family of classes, any other pattern,
    also the empty one, a single class. -/
def kind (pattern : Pattern) : Kind :=
  match pattern.text.getLast? with
  | some '-' | some ':' => .family
  | _ => .single

/-- Whether a token is one of the classes that a pattern names. -/
def accepts (pattern : Pattern) (token : Text) : Bool :=
  match pattern.kind with
  | .family => pattern.text.occursIn token
  | .single => token == pattern.text || utilityPart token == pattern.text

end Pattern

end ClassList
