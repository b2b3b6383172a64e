import ClassList.Proofs.Arrangement.Groups
import Mathlib.Data.List.Dedup

namespace ClassList

namespace Sorting

open Catalog (classifiedAs)

/-- One more token is reported exactly if it is unclassified. -/
theorem reported_take (catalog : Catalog) (sorting : Sorting) (token : Text) :
    (take catalog sorting token).reported =
      sorting.reported ++ (catalog.classifiedAs none [token]).map .unclassified := by
  unfold take
  cases hrank : catalog.rank? token with
  | none => simp [classifiedAs, hrank]
  | some position => simp [classifiedAs, hrank]

/-- After some more tokens, the unclassified ones among them have been reported in their order. -/
theorem reported_foldl_take (catalog : Catalog) (sorting : Sorting) (tokens : List Text) :
    (tokens.foldl (take catalog) sorting).reported =
      sorting.reported ++ (catalog.classifiedAs none tokens).map .unclassified := by
  induction tokens generalizing sorting with
  | nil => exact (List.append_nil _).symm
  | cons token rest ih =>
    have hsplit : catalog.classifiedAs none (token :: rest) =
        catalog.classifiedAs none [token] ++ catalog.classifiedAs none rest :=
      List.filter_append [token] rest
    rw [List.foldl_cons, ih, reported_take, hsplit, List.map_append, List.append_assoc]

end Sorting

namespace Catalog

theorem reported_sort (catalog : Catalog) (text : Text) :
    (catalog.sort text).reported =
      (catalog.classifiedAs none (Text.words text)).map .unclassified :=
  Sorting.reported_foldl_take catalog (Sorting.start catalog) (Text.words text)

/-- No token is lost or added on the way into a bucket. -/
theorem tokenCount_arrange (catalog : Catalog) (text : Text) :
    (catalog.arrange text).tokenCount = (Text.words text).length := by
  rw [Arrangement.tokenCount_eq_length, tokens_arrange_eq_sortByRank]
  exact List.length_mergeSort _

theorem length_ranks (catalog : Catalog) (tokens : List Text) :
    (catalog.ranks tokens).length = (tokens.map catalog.rank).dedup.length := by
  apply List.Perm.length_eq
  apply (List.perm_ext_iff_of_nodup (catalog.nodup_ranks tokens) (List.nodup_dedup _)).mpr
  intro rank
  rw [mem_ranks, List.mem_dedup, List.mem_map]

theorem records_eq (catalog : Catalog) (text : Text) :
    catalog.records text =
      ((catalog.arrange text).other?.elim [] Bucket.tokens).map .unclassified ++
        [.arranged (Text.words text).length ((Text.words text).map catalog.rank).dedup.length] := by
  rw [records, reported_sort, tokens_other?, tokenCount_arrange, size_arrange, length_ranks]

/-- The records account for every token. Arranging a text traces each token of the bucket without a
    group, in the order of the bucket and as often as it stands there, and nothing else if there is
    no such bucket. Then one summary says how many tokens the text has and how many ranks occur
    among them. -/
theorem records_account_for_tokens (catalog : Catalog) (text : Text) :
    (catalog.records text).map (fun record => (record.level.name, record.message)) =
      ((catalog.arrange text).other?.elim [] Bucket.tokens).map (fun token =>
        ("TRACE".toList, "unclassified class token: ".toList ++ Text.quote token)) ++
      [("DEBUG".toList,
        "partitioned ".toList ++ Nat.toDigits 10 (Text.words text).length ++
          " tokens into ".toList ++
          Nat.toDigits 10 ((Text.words text).map catalog.rank).dedup.length ++
          " buckets".toList)] := by
  rw [records_eq, List.map_append, List.map_map]
  rfl

end Catalog

end ClassList
