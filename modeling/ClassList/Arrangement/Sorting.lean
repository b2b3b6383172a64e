import ClassList.Arrangement.Basic
import ClassList.Text.Blank
import ClassList.Text.Literal

namespace ClassList

/-- What is reported while a text is arranged. -/
inductive Record where
  /-- A token that no group accepts. -/
  | unclassified (token : Text)
  /-- The number of tokens and of buckets of the finished arrangement. -/
  | arranged (tokens buckets : Nat)
deriving DecidableEq

namespace Record

/-- How much attention a record asks for. -/
inductive Level where
  | trace
  | debug
deriving DecidableEq

/-- The written name of a level. -/
def Level.name : Level → Text
  | trace => "TRACE".toList
  | debug => "DEBUG".toList

/-- A single token is a detail, the summary is not. -/
def level : Record → Level
  | unclassified _ => .trace
  | arranged _ _ => .debug

/-- The wording of a record. -/
def message : Record → Text
  | unclassified token => "unclassified class token: ".toList ++ Text.quote token
  | arranged tokens buckets =>
    "partitioned ".toList ++ Nat.toDigits 10 tokens ++ " tokens into ".toList ++
      Nat.toDigits 10 buckets ++ " buckets".toList

end Record

/-- How far a list of tokens has been sorted: the tokens taken so far, in one slot for each
    position of the catalogue and one more behind them, and what has been reported. -/
structure Sorting where
  slots : List (List Text)
  reported : List Record

namespace Sorting

/-- Nothing has been sorted yet. The slot behind the last group is for unclassified tokens. -/
def start (catalog : Catalog) : Sorting :=
  ⟨List.replicate (catalog.length + 1) [], []⟩

/-- A token at the end of a slot. -/
def push (slots : List (List Text)) (position : Nat) (token : Text) : List (List Text) :=
  slots.modify position fun tokens => tokens ++ [token]

/-- Sorts one more token, into the slot of the first group that accepts it. A token that no
    group accepts is reported. -/
def take (catalog : Catalog) (sorting : Sorting) (token : Text) : Sorting :=
  match catalog.rank? token with
  | some position => { sorting with slots := push sorting.slots position token }
  | none =>
    { slots := push sorting.slots catalog.length token
      reported := sorting.reported ++ [.unclassified token] }

/-- The slots as buckets, each with the group at its position. There is no group at the
    position of the last slot. -/
def arrangement (catalog : Catalog) (sorting : Sorting) : Arrangement :=
  .ofBuckets (sorting.slots.mapIdx fun position tokens => ⟨catalog[position]?, tokens⟩)

end Sorting

namespace Catalog

/-- The tokens of a text, sorted one after the other. -/
def sort (catalog : Catalog) (text : Text) : Sorting :=
  (Text.words text).foldl (Sorting.take catalog) (Sorting.start catalog)

/-- The tokens of a text, arranged by group. -/
def arrange (catalog : Catalog) (text : Text) : Arrangement :=
  (catalog.sort text).arrangement catalog

/-- The records of arranging a text: one for each unclassified token as it is met, then the
    summary of the arrangement. -/
def records (catalog : Catalog) (text : Text) : List Record :=
  let arrangement := catalog.arrange text
  (catalog.sort text).reported ++ [.arranged arrangement.tokenCount arrangement.size]

end Catalog

end ClassList
