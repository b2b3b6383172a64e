import ClassList.Text.Basic

namespace ClassList.Text

variable {separator : Char}

theorem join_cons_of_ne_nil (part : Text) {rest : List Text} (hne : rest ≠ []) :
    join separator (part :: rest) = part ++ separator :: join separator rest := by
  obtain ⟨next, others, rfl⟩ := List.exists_cons_of_ne_nil hne
  exact join_cons_cons separator part next others

/-- Every part but the first stands behind a separator. -/
theorem intercalate_cons_eq_append_flatMap (separator part : Text) (rest : List Text) :
    separator.intercalate (part :: rest) = part ++ rest.flatMap (separator ++ ·) := by
  induction rest generalizing part with
  | nil => simp
  | cons next others ih =>
    rw [List.intercalate_cons_cons, ih next, List.flatMap_cons]
    simp only [List.append_assoc]

theorem join_ne_nil {parts : List Text} (hne : parts ≠ []) (hparts : ∀ part ∈ parts, part ≠ []) :
    join separator parts ≠ [] := by
  obtain ⟨first, rest, rfl⟩ := List.exists_cons_of_ne_nil hne
  rw [join, intercalate_cons_eq_append_flatMap]
  exact List.append_ne_nil_of_left_ne_nil (hparts first List.mem_cons_self) _

theorem intercalate_append {separator : Text} {before after : List Text} (hbefore : before ≠ [])
    (hafter : after ≠ []) :
    separator.intercalate (before ++ after) =
      separator.intercalate before ++ separator ++ separator.intercalate after := by
  obtain ⟨first, rest, rfl⟩ := List.exists_cons_of_ne_nil hbefore
  obtain ⟨next, others, rfl⟩ := List.exists_cons_of_ne_nil hafter
  rw [List.cons_append, intercalate_cons_eq_append_flatMap, intercalate_cons_eq_append_flatMap,
    intercalate_cons_eq_append_flatMap, List.flatMap_append, List.flatMap_cons]
  simp only [List.append_assoc]

theorem join_append {before after : List Text} (hbefore : before ≠ []) (hafter : after ≠ []) :
    join separator (before ++ after) =
      join separator before ++ separator :: join separator after := by
  rw [join, intercalate_append hbefore hafter, List.append_assoc]
  rfl

/-- A separator between neighbours is a separator behind every part but the last. -/
theorem intercalate_concat (separator : Text) (parts : List Text) (last : Text) :
    separator.intercalate (parts ++ [last]) = parts.flatMap (· ++ separator) ++ last := by
  induction parts with
  | nil => exact List.intercalate_singleton
  | cons part rest ih =>
    have hrest : rest ++ [last] ≠ [] := List.append_ne_nil_of_right_ne_nil _ (List.cons_ne_nil _ _)
    rw [List.cons_append, List.intercalate_cons_of_ne_nil hrest, ih, List.flatMap_cons]
    simp only [List.append_assoc]

/-- Parts with a separator behind every one of them are joined parts with one more separator
    behind them, if there are any. -/
theorem flatMap_append_separator {parts : List Text} (hne : parts ≠ []) (separator : Text) :
    parts.flatMap (· ++ separator) = separator.intercalate parts ++ separator := by
  have hconcat := intercalate_concat separator parts []
  rw [intercalate_append hne (List.cons_ne_nil _ _), List.intercalate_singleton, List.append_nil,
    List.append_nil] at hconcat
  exact hconcat.symm

theorem join_concat (parts : List Text) (last : Text) :
    join separator (parts ++ [last]) = parts.flatMap (· ++ [separator]) ++ last :=
  intercalate_concat [separator] parts last

@[simp] theorem join_splitOn (text : Text) : join separator (text.splitOn separator) = text :=
  List.intercalate_splitOn separator

/-- Joining in two steps is joining at once, if there is something to join in every row. -/
theorem join_map_join {rows : List (List Text)} (hrows : ∀ row ∈ rows, row ≠ []) :
    join separator (rows.map (join separator)) = join separator rows.flatten := by
  induction rows with
  | nil => rfl
  | cons row rest ih =>
    obtain ⟨hrow, hrest⟩ := List.forall_mem_cons.mp hrows
    cases rest with
    | nil => simp
    | cons next others =>
      have hflat : (next :: others).flatten ≠ [] := by simp [hrest next List.mem_cons_self]
      calc join separator ((row :: next :: others).map (join separator))
          = join separator row ++ separator ::
              join separator ((next :: others).map (join separator)) :=
            join_cons_of_ne_nil _ (by simp)
        _ = join separator row ++ separator :: join separator (next :: others).flatten := by
          rw [ih hrest]
        _ = join separator (row :: next :: others).flatten := (join_append hrow hflat).symm

/-- The last of some parts, joined, are the end of all of them. -/
theorem join_isSuffix {last parts : List Text} (h : last <:+ parts) :
    join separator last <:+ join separator parts := by
  induction parts with
  | nil =>
    cases List.suffix_nil.mp h
    exact List.suffix_rfl
  | cons part rest ih =>
    rcases List.suffix_cons_iff.mp h with rfl | hrest
    · exact List.suffix_rfl
    · refine (ih hrest).trans ?_
      by_cases hempty : rest = []
      · subst hempty
        exact List.nil_suffix
      · rw [join_cons_of_ne_nil part hempty]
        exact ⟨part ++ [separator], by simp⟩

/-- Leaving the empty parts at the start out makes no difference only if there are none, or if an
    empty part is all that there is. -/
theorem join_dropWhile_isEmpty_iff {parts : List Text} :
    join separator (parts.dropWhile List.isEmpty) = join separator parts ↔
      parts.head? ≠ some [] ∨ parts = [[]] := by
  cases parts with
  | nil => simp
  | cons part rest =>
    by_cases hpart : part = []
    · subst hpart
      by_cases hrest : rest = []
      · subst hrest
        simp
      · have hsuffix : join separator (rest.dropWhile List.isEmpty) <:+ join separator rest :=
          join_isSuffix (rest.dropWhile_suffix List.isEmpty)
        -- the separator behind the empty part is one character more than is left without it
        have hne : join separator (rest.dropWhile List.isEmpty) ≠ join separator ([] :: rest) := by
          intro h
          have hlength := hsuffix.length_le
          rw [h, join_cons_of_ne_nil [] hrest, List.nil_append, List.length_cons] at hlength
          omega
        rw [List.dropWhile_cons_of_pos rfl]
        simp [hne, hrest]
    · simp [hpart]

theorem mem_join {parts : List Text} {c : Char} (h : c ∈ join separator parts) :
    c = separator ∨ ∃ part ∈ parts, c ∈ part := by
  cases parts with
  | nil => cases h
  | cons first rest =>
    rw [join, intercalate_cons_eq_append_flatMap] at h
    rcases List.mem_append.mp h with hfirst | hrest
    · exact .inr ⟨first, List.mem_cons_self, hfirst⟩
    · obtain ⟨part, hpart, hseparated⟩ := List.mem_flatMap.mp hrest
      rcases List.mem_cons.mp hseparated with hseparator | hmem
      · exact .inl hseparator
      · exact .inr ⟨part, List.mem_cons_of_mem first hpart, hmem⟩

theorem subset_join {parts : List Text} {part : Text} (hpart : part ∈ parts) :
    part ⊆ join separator parts := by
  obtain ⟨first, rest, rfl⟩ := List.exists_cons_of_ne_nil (List.ne_nil_of_mem hpart)
  rw [join, intercalate_cons_eq_append_flatMap]
  rcases List.mem_cons.mp hpart with rfl | hrest
  · exact List.subset_append_left _ _
  · intro c hc
    have hseparated : c ∈ [separator] ++ part := List.mem_append_right _ hc
    exact List.mem_append_right _ (List.mem_flatMap.mpr ⟨part, hrest, hseparated⟩)

/-- What follows a character that a text does not hold is not needed to tell that it starts
    with the text. -/
theorem isPrefix_of_isPrefix_append {opener before after : Text}
    (hafter : ∀ c ∈ after.head?, c ∉ opener) (h : opener <+: before ++ after) :
    opener <+: before := by
  induction opener generalizing before with
  | nil => exact List.nil_prefix
  | cons o os ih =>
    cases before with
    | nil =>
      cases after with
      | nil => cases List.prefix_nil.mp h
      | cons a as =>
        have heq : o = a := (List.cons_prefix_cons.mp h).1
        exact absurd (heq ▸ List.mem_cons_self) (hafter a rfl)
    | cons b bs =>
      obtain ⟨hhead, htail⟩ := List.cons_prefix_cons.mp h
      have hrest : ∀ c ∈ after.head?, c ∉ os :=
        fun c hc => List.not_mem_of_not_mem_cons (hafter c hc)
      exact List.cons_prefix_cons.mpr ⟨hhead, ih hrest htail⟩

/-- Joined parts start with a text that does not hold the separator exactly if the first part
    does. -/
theorem isPrefix_join_iff {opener : Text} (hne : opener ≠ []) (hseparator : separator ∉ opener)
    {parts : List Text} :
    opener <+: join separator parts ↔ ∃ first ∈ parts.head?, opener <+: first := by
  cases parts with
  | nil => simpa using hne
  | cons first rest =>
    obtain ⟨after, hjoin, hafter⟩ : ∃ after, join separator (first :: rest) = first ++ after ∧
        ∀ c ∈ after.head?, c ∉ opener := by
      by_cases hrest : rest = []
      · subst hrest
        exact ⟨[], by simp, by simp⟩
      · exact ⟨_, join_cons_of_ne_nil first hrest, by simpa using hseparator⟩
    rw [hjoin]
    constructor
    · intro hopener
      exact ⟨first, rfl, isPrefix_of_isPrefix_append hafter hopener⟩
    · rintro ⟨_, hfirst, hopener⟩
      cases hfirst
      exact hopener.trans (List.prefix_append first after)

/-- A text that does not hold a separator stands on one side of it. -/
theorem isInfix_append_cons {inner before after : Text}
    (hseparator : separator ∉ inner) (h : inner <:+: before ++ separator :: after) :
    inner <:+: before ∨ inner <:+: after := by
  rcases List.infix_append_iff.mp h with hbefore | hafter | ⟨left, right, hsplit, hleft, hright⟩
  · exact .inl hbefore
  · rcases List.infix_cons_iff.mp hafter with hprefix | hinfix
    · cases inner with
      | nil => exact .inr (List.nil_infix)
      | cons c cs =>
        rw [(List.cons_prefix_cons.mp hprefix).1] at hseparator
        exact absurd List.mem_cons_self hseparator
    · exact .inr hinfix
  · cases right with
    | nil =>
      rw [hsplit, List.append_nil]
      exact .inl hleft.isInfix
    | cons c cs =>
      rw [hsplit, (List.cons_prefix_cons.mp hright).1] at hseparator
      exact absurd (List.mem_append_right left List.mem_cons_self) hseparator

theorem isInfix_join {inner : Text} (hne : inner ≠ []) (hseparator : separator ∉ inner)
    {parts : List Text} (h : inner <:+: join separator parts) :
    ∃ part ∈ parts, inner <:+: part := by
  induction parts with
  | nil => exact absurd (List.infix_nil.mp h) hne
  | cons part rest ih =>
    by_cases hrest : rest = []
    · subst hrest
      rw [join_singleton] at h
      exact ⟨part, List.mem_cons_self, h⟩
    · rw [join_cons_of_ne_nil part hrest] at h
      rcases isInfix_append_cons hseparator h with hpart | hjoined
      · exact ⟨part, List.mem_cons_self, hpart⟩
      · obtain ⟨other, hother, hinner⟩ := ih hjoined
        exact ⟨other, List.mem_cons_of_mem part hother, hinner⟩

end ClassList.Text
