import ClassList.Pattern

namespace ClassList

/-- The kind of classes a group holds. Tiers are declared in the order in which the groups of a
    catalogue are laid out; a tier has no part in which tokens a group accepts. -/
inductive Tier where
  | utility
  | stateVariant
  | pseudoElement
  | responsive
  | darkMode
deriving DecidableEq, Ord

namespace Tier

/-- Every tier, in declaration order. -/
def all : List Tier :=
  [utility, stateVariant, pseudoElement, responsive, darkMode]

/-- The written name of a tier. -/
def name : Tier → Text
  | utility => "utility".toList
  | stateVariant => "state-variant".toList
  | pseudoElement => "pseudo-element".toList
  | responsive => "responsive".toList
  | darkMode => "dark-mode".toList

end Tier

/-- A named group of classes, given by the patterns of its members. -/
structure Group where
  label : Text
  tier : Tier
  patterns : List Pattern
deriving DecidableEq

/-- A token belongs to a group when one of the patterns of the group accepts it. -/
def Group.accepts (group : Group) (token : Text) : Bool :=
  group.patterns.any fun pattern => pattern.accepts token

end ClassList
