import ClassList.Catalog.Basic

namespace ClassList

/-- Tokens of one group, or, without a group, the tokens that no group accepts. -/
structure Bucket where
  group : Option Group
  tokens : List Text
deriving DecidableEq

namespace Bucket

/-- The label of the group, or the label of unclassified tokens. -/
def label (bucket : Bucket) : Text :=
  (bucket.group.map Group.label).getD otherLabel

/-- Whether the bucket holds unclassified tokens. -/
def isOther (bucket : Bucket) : Bool :=
  bucket.group.isNone

/-- The tokens with one space between neighbours. -/
def joined (bucket : Bucket) : Text :=
  Text.join ' ' bucket.tokens

end Bucket

/-- Buckets in the order in which they are written. None of them is empty. -/
@[ext]
structure Arrangement where
  buckets : List Bucket
  tokens_ne_nil : ∀ bucket ∈ buckets, bucket.tokens ≠ []
deriving DecidableEq

namespace Arrangement

/-- The arrangement of the buckets that hold a token, in the given order. -/
def ofBuckets (buckets : List Bucket) : Arrangement where
  buckets := buckets.filter fun bucket => !bucket.tokens.isEmpty
  tokens_ne_nil := by simp

/-- The number of buckets. -/
def size (arrangement : Arrangement) : Nat :=
  arrangement.buckets.length

/-- Whether there is no bucket, and so no token. -/
def isEmpty (arrangement : Arrangement) : Bool :=
  arrangement.buckets.isEmpty

/-- The tokens of all buckets, bucket by bucket. -/
def tokens (arrangement : Arrangement) : List Text :=
  arrangement.buckets.flatMap Bucket.tokens

/-- The number of tokens in all buckets. -/
def tokenCount (arrangement : Arrangement) : Nat :=
  arrangement.buckets.foldr (fun bucket count => bucket.tokens.length + count) 0

/-- The first bucket with a label. -/
def bucket? (arrangement : Arrangement) (label : Text) : Option Bucket :=
  arrangement.buckets.find? fun bucket => bucket.label == label

theorem tokenCount_eq_length (arrangement : Arrangement) :
    arrangement.tokenCount = arrangement.tokens.length := by
  unfold tokenCount tokens
  induction arrangement.buckets with
  | nil => rfl
  | cons bucket rest ih => rw [List.foldr_cons, List.flatMap_cons, List.length_append, ih]

end Arrangement

/-- A line with one more token at its end. A space goes in front of the token unless the line
    is still empty, so that empty tokens at the start of a line leave no trace. -/
def appendToken (line token : Text) : Text :=
  if line.isEmpty then token else line ++ ' ' :: token

/-- The tokens of an arrangement on one line. -/
def Arrangement.renderInline (arrangement : Arrangement) : Text :=
  arrangement.tokens.foldl appendToken []

end ClassList
