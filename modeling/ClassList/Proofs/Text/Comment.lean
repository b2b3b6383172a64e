import ClassList.Proofs.Text.Join
import ClassList.Proofs.Text.Lines
import ClassList.Proofs.Text.Words
import ClassList.Text.Comment

namespace ClassList.Text

/-- What a line comment starts with. -/
def lineOpener : Text :=
  "//".toList

/-- What a block comment starts with. -/
def blockOpener : Text :=
  "/*".toList

/-- A text in which no comment opens. -/
structure OpensNoComment (text : Text) : Prop where
  line : ¬ lineOpener <:+: text
  block : ¬ blockOpener <:+: text

theorem OpensNoComment.join {parts : List Text}
    (hparts : ∀ part ∈ parts, OpensNoComment part) : OpensNoComment (join ' ' parts) := by
  constructor
  · intro hopener
    obtain ⟨part, hpart, hinside⟩ := isInfix_join (by decide) (by decide) hopener
    exact (hparts part hpart).line hinside
  · intro hopener
    obtain ⟨part, hpart, hinside⟩ := isInfix_join (by decide) (by decide) hopener
    exact (hparts part hpart).block hinside

theorem OpensNoComment.of_isInfix {text inside : Text} (htext : OpensNoComment text)
    (h : inside <:+: text) : OpensNoComment inside :=
  ⟨fun hopener => htext.line (hopener.trans h), fun hopener => htext.block (hopener.trans h)⟩

@[simp] theorem stripComments_nil : stripComments [] = [] := by
  rw [stripComments]

@[simp] theorem stripComments_line (text : Text) :
    stripComments ('/' :: '/' :: text) = stripComments (afterLine text) := by
  rw [stripComments]

theorem stripComments_block {text rest : Text} (hafter : afterBlock? text = some rest) :
    stripComments ('/' :: '*' :: text) = stripComments rest := by
  rw [stripComments]
  split
  · next heq =>
    rw [hafter] at heq
    cases heq
    rfl
  · next heq =>
    rw [hafter] at heq
    cases heq

theorem stripComments_open {text : Text} (hafter : afterBlock? text = none) :
    stripComments ('/' :: '*' :: text) = '/' :: stripComments ('*' :: text) := by
  rw [stripComments]
  split
  · next heq =>
    rw [hafter] at heq
    cases heq
  · rfl

/-- A block comment closes at its first star. -/
theorem afterBlock?_eq_some_iff {text rest : Text} :
    afterBlock? text = some rest ↔ ∃ body, '*' ∉ body ∧ text = body ++ '*' :: '/' :: rest := by
  constructor
  · intro hafter
    have hsplit : text.takeWhile (· != '*') ++ text.dropWhile (· != '*') = text :=
      List.takeWhile_append_dropWhile
    have hbody : '*' ∉ text.takeWhile (· != '*') := by
      intro hstar
      simpa using List.mem_takeWhile_imp hstar
    unfold afterBlock? at hafter
    split at hafter
    · next hclosed =>
      cases hafter
      rw [hclosed] at hsplit
      exact ⟨_, hbody, hsplit.symm⟩
    · cases hafter
  · rintro ⟨body, hbody, rfl⟩
    have hdrop : (body ++ '*' :: '/' :: rest).dropWhile (· != '*') = '*' :: '/' :: rest := by
      rw [List.dropWhile_append_of_pos]
      · rfl
      · intro c hc
        have hne : c ≠ '*' := fun heq => hbody (heq ▸ hc)
        simpa using hne
    simp only [afterBlock?, hdrop]

theorem afterBlock?_isSuffix {text rest : Text} (h : afterBlock? text = some rest) :
    rest <:+ text := by
  obtain ⟨body, _, rfl⟩ := afterBlock?_eq_some_iff.mp h
  exact ⟨body ++ ['*', '/'], by simp⟩

/-- A character that starts no comment is kept. -/
theorem stripComments_cons {c : Char} {text : Text} (hline : ¬ lineOpener <+: c :: text)
    (hblock : ¬ blockOpener <+: c :: text) :
    stripComments (c :: text) = c :: stripComments text := by
  rw [stripComments]
  · rintro cs rfl rfl
    exact hblock ⟨cs, rfl⟩
  · rintro cs rfl rfl
    exact hline ⟨cs, rfl⟩

/-- It is kept whatever stands behind the text, if nothing there can complete an opener. -/
theorem stripComments_cons_append {c : Char} {text after : Text}
    (hafter : ∀ d ∈ after.head?, d ∉ lineOpener ∧ d ∉ blockOpener)
    (hline : ¬ lineOpener <+: c :: text) (hblock : ¬ blockOpener <+: c :: text) :
    stripComments (c :: text ++ after) = c :: stripComments (text ++ after) := by
  have hline' : ¬ lineOpener <+: c :: text ++ after := fun hopener =>
    hline (isPrefix_of_isPrefix_append (fun d hd => (hafter d hd).1) hopener)
  have hblock' : ¬ blockOpener <+: c :: text ++ after := fun hopener =>
    hblock (isPrefix_of_isPrefix_append (fun d hd => (hafter d hd).2) hopener)
  exact stripComments_cons hline' hblock'

theorem stripComments_cons_of_ne {c : Char} (hne : c ≠ '/') (text : Text) :
    stripComments (c :: text) = c :: stripComments text := by
  have hopener : ∀ rest, ¬ '/' :: rest <+: c :: text :=
    fun rest h => hne (List.cons_prefix_cons.mp h).1.symm
  exact stripComments_cons (hopener _) (hopener _)

theorem stripComments_append {before : Text} (hslash : '/' ∉ before) (after : Text) :
    stripComments (before ++ after) = before ++ stripComments after := by
  induction before with
  | nil => rfl
  | cons c cs ih =>
    obtain ⟨hne, hslash⟩ := List.ne_and_not_mem_of_not_mem_cons hslash
    rw [List.cons_append, stripComments_cons_of_ne hne.symm, ih hslash]
    rfl

@[simp] theorem trim_clean (value : Text) : trim (clean value) = clean value :=
  trim_trim _

theorem stripComments_sublist (text : Text) : (stripComments text).Sublist text := by
  fun_induction stripComments text with
  | case1 => exact List.Sublist.slnil
  | case2 cs rest hafter ih =>
    exact ((ih.trans (afterBlock?_isSuffix hafter).sublist).cons '*').cons '/'
  | case3 cs hafter ih => exact ih.cons_cons '/'
  | case4 cs ih => exact ((ih.trans (List.dropWhile_suffix _).sublist).cons '/').cons '/'
  | case5 c cs hblock hline ih => exact ih.cons_cons c

/-- A text does not start with an opener if it does not read as one. -/
theorem opener_not_isPrefix_cons {c : Char} {text : Text} (second : Char)
    (h : ∀ rest, c = '/' → text = second :: rest → False) : ¬ ['/', second] <+: c :: text := by
  rintro ⟨rest, hsplit⟩
  cases hsplit
  exact h rest rfl rfl

/-- A comment starts with a slash itself. So the character that closes up behind a kept slash has
    followed it in the text, and no opener is put together. -/
theorem isPrefix_of_isPrefix_cons_stripComments {c second : Char} {text : Text}
    (hline : ¬ lineOpener <+: c :: text) (h : ['/', second] <+: c :: stripComments text) :
    ['/', second] <+: c :: text := by
  obtain ⟨rfl, hrest⟩ := List.cons_prefix_cons.mp h
  cases text with
  | nil =>
    rw [stripComments] at hrest
    cases List.prefix_nil.mp hrest
  | cons d ds =>
    have hslash : d ≠ '/' := by
      rintro rfl
      exact hline ⟨ds, rfl⟩
    rw [stripComments_cons_of_ne hslash] at hrest
    obtain ⟨rfl, _⟩ := List.cons_prefix_cons.mp hrest
    exact ⟨ds, rfl⟩

theorem lineOpener_not_isInfix_cons {c : Char} {text : Text} (hopener : ¬ lineOpener <+: c :: text)
    (hrest : ¬ lineOpener <:+: stripComments text) :
    ¬ lineOpener <:+: c :: stripComments text := by
  rw [List.infix_cons_iff, not_or]
  exact ⟨fun hstart => hopener (isPrefix_of_isPrefix_cons_stripComments hopener hstart), hrest⟩

/-- Two slashes in a row open a comment wherever they are met, so none are left side by side. -/
theorem lineOpener_not_isInfix_stripComments (text : Text) :
    ¬ lineOpener <:+: stripComments text := by
  fun_induction stripComments text with
  | case1 => simp [lineOpener]
  | case2 cs rest hafter ih => exact ih
  | case3 cs hafter ih =>
    exact lineOpener_not_isInfix_cons (opener_not_isPrefix_cons '/' (by simp)) ih
  | case4 cs ih => exact ih
  | case5 c cs hblock hline ih =>
    exact lineOpener_not_isInfix_cons (opener_not_isPrefix_cons '/' hline) ih

theorem lineOpener_not_isInfix_clean (value : Text) : ¬ lineOpener <:+: clean value :=
  fun hinside => lineOpener_not_isInfix_stripComments value (hinside.trans (trim_isInfix _))

/-- A line up to its first two slashes. -/
def cutLine : Text → Text
  | [] => []
  | '/' :: '/' :: _ => []
  | c :: cs => c :: cutLine cs

theorem cutLine_of_lineOpener_isPrefix {row : Text} (h : lineOpener <+: row) :
    cutLine row = [] := by
  obtain ⟨tail, rfl⟩ := h
  rfl

theorem cutLine_eq_self {row : Text} (h : ¬ lineOpener <:+: row) : cutLine row = row := by
  fun_induction cutLine row with
  | case1 => rfl
  | case2 cs => exact absurd ⟨[], cs, rfl⟩ h
  | case3 c cs hslashes ih =>
    rw [List.infix_cons_iff, not_or] at h
    rw [ih h.2]

theorem afterLine_append {row rest : Text} (hrow : '\n' ∉ row)
    (hrest : ∀ c ∈ rest.head?, c = '\n') : afterLine (row ++ rest) = rest := by
  have hkept : rest.dropWhile (· != '\n') = rest := by
    cases rest with
    | nil => rfl
    | cons c cs =>
      rw [hrest c rfl]
      rfl
  rw [afterLine, List.dropWhile_append_of_pos, hkept]
  intro c hc
  have hne : c ≠ '\n' := fun heq => hrow (heq ▸ hc)
  simpa using hne

/-- One line of a text is cut on its own: a line comment ends where the line does. -/
theorem stripComments_append_feed {row rest : Text} (hrow : '\n' ∉ row)
    (hblock : ¬ blockOpener <:+: row) (hrest : ∀ c ∈ rest.head?, c = '\n') :
    stripComments (row ++ rest) = cutLine row ++ stripComments rest := by
  fun_induction cutLine row with
  | case1 => rfl
  | case2 cs =>
    have hcs : '\n' ∉ cs := fun hfeed => hrow (by simp [hfeed])
    rw [List.cons_append, List.cons_append, stripComments_line, afterLine_append hcs hrest]
    rfl
  | case3 c cs hslashes ih =>
    rw [List.infix_cons_iff, not_or] at hblock
    obtain ⟨_, hcs⟩ := List.ne_and_not_mem_of_not_mem_cons hrow
    have hfeed : ∀ d ∈ rest.head?, d ∉ lineOpener ∧ d ∉ blockOpener := by
      intro d hd
      rw [hrest d hd]
      decide
    have hline : ¬ lineOpener <+: c :: cs := by
      rintro ⟨tail, htail⟩
      cases htail
      exact hslashes tail rfl rfl
    rw [stripComments_cons_append hfeed hline hblock.1, ih hcs hblock.2]
    rfl

theorem feed_and_blockOpener_not_of_mem_splitOn {text : Text} (hblock : ¬ blockOpener <:+: text) :
    ∀ row ∈ text.splitOn '\n', '\n' ∉ row ∧ ¬ blockOpener <:+: row := by
  intro row hrow
  refine ⟨feed_not_mem_of_mem_splitOn hrow, ?_⟩
  rw [List.splitOn_eq_splitOnP] at hrow
  exact fun hinside => hblock (hinside.trans (isInfix_of_mem_splitOnP hrow))

/-- Where no block comment opens, a text loses of every line what follows two slashes. -/
theorem stripComments_join {rows : List Text}
    (hrows : ∀ row ∈ rows, '\n' ∉ row ∧ ¬ blockOpener <:+: row) :
    stripComments (join '\n' rows) = join '\n' (rows.map cutLine) := by
  induction rows with
  | nil => simp
  | cons row rest ih =>
    obtain ⟨⟨hfeed, hblock⟩, hrest⟩ := List.forall_mem_cons.mp hrows
    cases rest with
    | nil =>
      have hcut : stripComments (row ++ []) = cutLine row ++ stripComments [] :=
        stripComments_append_feed hfeed hblock (by simp)
      simpa using hcut
    | cons next others =>
      rw [join_cons_cons, stripComments_append_feed hfeed hblock (by simp),
        stripComments_cons_of_ne (by decide), ih hrest]
      simp

theorem words_clean_join {rows : List Text}
    (hrows : ∀ row ∈ rows, '\n' ∉ row ∧ ¬ blockOpener <:+: row) :
    words (clean (join '\n' rows)) = rows.flatMap fun row => words (cutLine row) := by
  simp [clean, stripComments_join hrows, List.flatMap_map]

end ClassList.Text
