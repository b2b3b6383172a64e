import ClassList.Organizer
import Mathlib.Logic.Function.Iterate

namespace ClassList

/-- The results on a batch whose items are taken in an order of their positions. Every result is
    put at the position of its item. -/
def resultsInOrder {α β : Type} (f : α → β) (batch : List α) (order : List Nat) :
    List (Option β) :=
  order.foldl (fun results position => results.set position (batch[position]?.map f))
    (List.replicate batch.length none)

/-- The results on a batch at the positions that have been taken. -/
def resultsAt {α β : Type} (f : α → β) (batch : List α) (taken : List Nat) : List (Option β) :=
  batch.mapIdx fun position item => if position ∈ taken then some (f item) else none

section

variable {α β : Type} (f : α → β) (batch : List α)

theorem getElem?_resultsAt (taken : List Nat) (position : Nat) :
    (resultsAt f batch taken)[position]? =
      batch[position]?.map fun item => if position ∈ taken then some (f item) else none := by
  simp [resultsAt]

theorem resultsAt_nil : resultsAt f batch [] = List.replicate batch.length none :=
  List.mapIdx_eq_replicate_iff.mpr fun _ _ => rfl

/-- One more result stands at its own position and nowhere else. -/
theorem set_resultsAt (taken : List Nat) (position : Nat) :
    (resultsAt f batch taken).set position (batch[position]?.map f) =
      resultsAt f batch (taken ++ [position]) := by
  apply List.ext_getElem?
  intro other
  rw [List.getElem?_set', getElem?_resultsAt, getElem?_resultsAt]
  by_cases hsame : position = other
  · subst hsame
    rw [if_pos rfl]
    cases batch[position]? with
    | none => rfl
    | some item => simp
  · rw [if_neg hsame]
    simp [Ne.symm hsame]

/-- After some positions of an order, the results are those at these positions. -/
theorem foldl_set_resultsAt (taken order : List Nat) :
    order.foldl (fun results position => results.set position (batch[position]?.map f))
        (resultsAt f batch taken) =
      resultsAt f batch (taken ++ order) := by
  induction order generalizing taken with
  | nil => rw [List.foldl_nil, List.append_nil]
  | cons position order ih =>
    rw [List.foldl_cons, set_resultsAt, ih, List.append_assoc, List.singleton_append]

/-- Whatever the order, every position ends with the result of its item. -/
theorem resultsInOrder_eq_map {order : List Nat} (horder : order.Perm (List.range batch.length)) :
    resultsInOrder f batch order = (batch.map f).map some := by
  unfold resultsInOrder
  rw [← resultsAt_nil f batch, foldl_set_resultsAt, List.nil_append]
  apply List.ext_getElem?
  intro position
  rw [getElem?_resultsAt, List.getElem?_map, List.getElem?_map]
  cases hitem : batch[position]? with
  | none => rfl
  | some item =>
    obtain ⟨hbound, _⟩ := List.getElem?_eq_some_iff.mp hitem
    have htaken : position ∈ order := horder.mem_iff.mpr (List.mem_range.mpr hbound)
    simp [htaken]

end

namespace Organizer

/-- The organizer with the same configuration and the same way to organize a single class list,
    whose other answers follow from these two. -/
def byDefault (organizer : Organizer) : Organizer :=
  ofOrganize organizer.options organizer.organize

theorem parallel_eq_byDefault (inner : Organizer) : inner.parallel = inner.byDefault := by
  unfold parallel byDefault ofOrganize
  rw [funext (mapTasks_eq_map inner.organize)]

/-- Wrapped more than once, an organizer answers as wrapped once. -/
theorem iterate_parallel_succ (inner : Organizer) (depth : Nat) :
    parallel^[depth + 1] inner = inner.byDefault := by
  induction depth with
  | zero => exact parallel_eq_byDefault inner
  | succ depth ih =>
    rw [Function.iterate_succ_apply', ih, parallel_eq_byDefault]
    rfl

theorem iterate_parallel_of_byDefault {α : Type} {answer : Organizer → α} {inner : Organizer}
    (hanswer : answer inner = answer inner.byDefault) (depth : Nat) :
    answer (parallel^[depth] inner) = answer inner := by
  cases depth with
  | zero => rfl
  | succ depth => rw [iterate_parallel_succ, hanswer]

/-- Wrapping changes no answer that follows from how a single class list is organized. At every
    depth, the configuration and the organized class lists are those of the organizer inside. A
    batch is organized item by item, which comes to the same in every order, and its answer is that
    of the organizer inside if this one goes item by item as well. Element snippets and fixes are
    those of the organizer inside if it has no way of its own to come to them. -/
theorem parallel_answers (inner : Organizer) (depth : Nat) :
    (parallel^[depth] inner).options = inner.options ∧
    (∀ text, (parallel^[depth] inner).organize text = inner.organize text) ∧
    (∀ batch, (parallel^[depth + 1] inner).organizeBatch batch = batch.map inner.organize) ∧
    (∀ batch order, order.Perm (List.range batch.length) →
      resultsInOrder (parallel^[depth] inner).organize batch order =
        ((parallel^[depth + 1] inner).organizeBatch batch).map some) ∧
    (inner.organizeBatch = inner.byDefault.organizeBatch →
      ∀ batch, (parallel^[depth] inner).organizeBatch batch = inner.organizeBatch batch) ∧
    (inner.organizeElement = inner.byDefault.organizeElement →
      ∀ text, (parallel^[depth] inner).organizeElement text = inner.organizeElement text) ∧
    (inner.fix = inner.byDefault.fix →
      ∀ value, (parallel^[depth] inner).fix value = inner.fix value) := by
  have horganize : (parallel^[depth] inner).organize = inner.organize :=
    iterate_parallel_of_byDefault rfl depth
  have hbatch : (parallel^[depth + 1] inner).organizeBatch = List.map inner.organize := by
    rw [iterate_parallel_succ]
    rfl
  refine ⟨iterate_parallel_of_byDefault rfl depth, congrFun horganize, congrFun hbatch, ?_, ?_, ?_,
    ?_⟩
  · intro batch order horder
    rw [resultsInOrder_eq_map _ batch horder, horganize, hbatch]
  · intro hdefault batch
    rw [iterate_parallel_of_byDefault hdefault]
  · intro hdefault text
    rw [iterate_parallel_of_byDefault hdefault]
  · intro hdefault value
    rw [iterate_parallel_of_byDefault hdefault]

/-- An organizer that leaves class lists as they are, wrapped twice, with a batch that is worked on
    from its end. -/
theorem parallel_answers_of_unsorted :
    ∃ inner : Organizer, inner = ofOrganize {} id ∧
      [2, 1, 0].Perm (List.range ["mt-4 flex".toList, [], "z-1".toList].length) ∧
      resultsInOrder (parallel^[1] inner).organize ["mt-4 flex".toList, [], "z-1".toList]
        [2, 1, 0] = [some "mt-4 flex".toList, some [], some "z-1".toList] ∧
      inner.organizeBatch = inner.byDefault.organizeBatch ∧
      (∀ batch, (parallel^[2] inner).organizeBatch batch = inner.organizeBatch batch) ∧
      inner.organizeElement = inner.byDefault.organizeElement ∧
      (∀ text, (parallel^[2] inner).organizeElement text = inner.organizeElement text) ∧
      inner.fix = inner.byDefault.fix ∧
      ∀ value, (parallel^[2] inner).fix value = inner.fix value := by
  have horder : [2, 1, 0].Perm (List.range ["mt-4 flex".toList, [], "z-1".toList].length) := by
    decide
  obtain ⟨_, _, hitems, hordered, _⟩ := parallel_answers (ofOrganize {} id) 1
  obtain ⟨_, _, _, _, hbatch, helement, hfix⟩ := parallel_answers (ofOrganize {} id) 2
  refine ⟨_, rfl, horder, ?_, rfl, hbatch rfl, rfl, helement rfl, rfl, hfix rfl⟩
  rw [hordered _ _ horder, hitems]
  rfl

/-- Answers that an organizer has of its own are lost when it is wrapped. -/
theorem exists_parallel_answers_ne :
    ∃ inner : Organizer,
      inner = { ofOptions {} with
        organizeBatch := id, organizeElement := id, fix := fun _ => none } ∧
      inner.parallel.organizeBatch ["mt-4 flex".toList] ≠
        inner.organizeBatch ["mt-4 flex".toList] ∧
      inner.parallel.organizeElement [] ≠ inner.organizeElement [] ∧
      inner.parallel.fix "mt-4 flex".toList ≠ inner.fix "mt-4 flex".toList := by
  refine ⟨_, rfl, ?_, ?_, ?_⟩
  · rw [parallel_eq_byDefault]
    decide +kernel
  · rw [parallel_eq_byDefault]
    decide +kernel
  · rw [parallel_eq_byDefault]
    decide +kernel

end Organizer

end ClassList
