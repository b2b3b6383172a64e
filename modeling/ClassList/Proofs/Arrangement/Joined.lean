import ClassList.Proofs.Arrangement.Inline

namespace ClassList

namespace Arrangement

/-- Dropping the buckets without tokens loses no token. -/
theorem tokens_ofBuckets (buckets : List Bucket) :
    (ofBuckets buckets).tokens = buckets.flatMap Bucket.tokens := by
  have hkept := List.flatten_filter_not_isEmpty (L := buckets.map Bucket.tokens)
  rw [List.filter_map, ← List.flatMap_def, ← List.flatMap_def] at hkept
  exact hkept

/-- Every bucket holds a token, so joining the joined buckets is joining all tokens. -/
theorem join_joined (arrangement : Arrangement) :
    Text.join ' ' (arrangement.buckets.map Bucket.joined) =
      Text.join ' ' arrangement.tokens := by
  have hrows : ∀ row ∈ arrangement.buckets.map Bucket.tokens, row ≠ [] := by
    intro row hrow
    obtain ⟨bucket, hbucket, rfl⟩ := List.mem_map.mp hrow
    exact arrangement.tokens_ne_nil bucket hbucket
  calc Text.join ' ' (arrangement.buckets.map Bucket.joined)
      = Text.join ' ' ((arrangement.buckets.map Bucket.tokens).map (Text.join ' ')) := by
        rw [List.map_map]
        rfl
    _ = Text.join ' ' (arrangement.buckets.map Bucket.tokens).flatten := Text.join_map_join hrows
    _ = Text.join ' ' arrangement.tokens := by rw [Arrangement.tokens, List.flatMap_def]

theorem renderInline_eq_joined_iff {arrangement : Arrangement} :
    arrangement.renderInline = Text.join ' ' (arrangement.buckets.map Bucket.joined) ↔
      arrangement.tokens.head? ≠ some [] ∨ arrangement.tokens = [[]] := by
  rw [renderInline_eq_join_dropWhile, join_joined]
  exact Text.join_dropWhile_isEmpty_iff

/-- What the line of an arrangement is. It is made of the tokens of all buckets without the empty
    ones at their start, one space between neighbours. So it is the joined buckets, one space
    between neighbours, exactly if the first token is not empty or is the only one. That is the
    case for every arranged text, since its tokens are words. -/
theorem renderInline_joins :
    (∀ buckets : List Bucket,
      (ofBuckets buckets).tokens = buckets.flatMap Bucket.tokens ∧
      (ofBuckets buckets).renderInline =
        Text.join ' ' ((ofBuckets buckets).tokens.dropWhile List.isEmpty) ∧
      ((ofBuckets buckets).renderInline =
          Text.join ' ' ((ofBuckets buckets).buckets.map Bucket.joined) ↔
        (ofBuckets buckets).tokens.head? ≠ some [] ∨ (ofBuckets buckets).tokens = [[]])) ∧
    ∀ (catalog : Catalog) (text : Text),
      (catalog.arrange text).tokens.head? ≠ some [] ∧
      (catalog.arrange text).renderInline =
        Text.join ' ' ((catalog.arrange text).buckets.map Bucket.joined) := by
  constructor
  · intro buckets
    exact ⟨tokens_ofBuckets buckets, renderInline_eq_join_dropWhile _,
      renderInline_eq_joined_iff⟩
  · intro catalog text
    have hfirst := catalog.head?_tokens_arrange_ne text
    exact ⟨hfirst, renderInline_eq_joined_iff.mpr (.inl hfirst)⟩

/-- Empty tokens in front leave no trace, in whichever bucket. One at the end leaves a space. -/
example :
    (ofBuckets [⟨none, [[]]⟩, ⟨none, []⟩, ⟨none, [[], "a".toList, []]⟩]).renderInline =
      "a ".toList := by
  decide

end Arrangement

end ClassList
