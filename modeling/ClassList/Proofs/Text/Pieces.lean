import ClassList.Proofs.Text.Cleaning
import ClassList.Text.Pieces

namespace ClassList.Text

/-- A text is cut at a closer, and at the first: none is complete before its own slash. -/
theorem cutAtCloser?_sound {text body rest : Text} (h : cutAtCloser? text = some (body, rest)) :
    text = body ++ '*' :: '/' :: rest ∧ ¬ blockCloser <:+: body ++ ['*'] := by
  fun_induction cutAtCloser? text generalizing body with
  | case1 => cases h
  | case2 cs =>
    cases h
    exact ⟨rfl, by decide⟩
  | case3 c cs hcloser ih =>
    obtain ⟨⟨inner, after⟩, hcut, heq⟩ := Option.map_eq_some_iff.mp h
    cases heq
    obtain ⟨rfl, hfirst⟩ := ih hcut
    refine ⟨rfl, ?_⟩
    rw [List.cons_append, List.infix_cons_iff, not_or]
    refine ⟨?_, hfirst⟩
    rintro ⟨tail, htail⟩
    -- a closer at the front would have ended the body here already
    obtain ⟨hstar, hslash⟩ := List.cons.inj htail
    have hrest : inner ++ '*' :: '/' :: rest = (inner ++ ['*']) ++ '/' :: rest := by simp
    exact hcloser (tail ++ '/' :: rest) hstar.symm (by rw [hrest, ← hslash]; rfl)

theorem cutAtCloser?_complete {body : Text} (hfirst : ¬ blockCloser <:+: body ++ ['*'])
    (rest : Text) : cutAtCloser? (body ++ '*' :: '/' :: rest) = some (body, rest) := by
  induction body with
  | nil => rfl
  | cons c cs ih =>
    rw [List.cons_append, List.infix_cons_iff, not_or] at hfirst
    obtain ⟨hstart, hfirst⟩ := hfirst
    rw [List.cons_append, cutAtCloser?, ih hfirst]
    · rfl
    · rintro tail rfl hslash
      apply hstart
      cases cs with
      | nil => cases hslash
      | cons d ds =>
        cases hslash
        exact ⟨ds ++ ['*'], rfl⟩

theorem blockCloser_not_isInfix_concat {body : Text} (hstar : '*' ∉ body) :
    ¬ blockCloser <:+: body ++ ['*'] := by
  rw [List.infix_concat_iff, not_or]
  constructor
  · intro hsuffix
    have hlast := hsuffix.getLast (by decide)
    rw [List.getLast_append_singleton] at hlast
    exact absurd hlast (by decide)
  · intro hinside
    exact hstar (hinside.subset List.mem_cons_self)

/-- A block comment that closes at its first star closes at its first `*/`. The converse fails if a
    star stands in the body. -/
theorem afterBlock?_eq_some_iff_cutAtCloser? {text rest : Text} :
    afterBlock? text = some rest ↔
      ∃ body, cutAtCloser? text = some (body, rest) ∧ '*' ∉ body := by
  rw [afterBlock?_eq_some_iff]
  constructor
  · rintro ⟨body, hstar, rfl⟩
    exact ⟨body, cutAtCloser?_complete (blockCloser_not_isInfix_concat hstar) rest, hstar⟩
  · rintro ⟨body, hcut, hstar⟩
    exact ⟨body, hstar, (cutAtCloser?_sound hcut).1⟩

/-- Both readers take the same step at every piece, if no block comment has a star in it. -/
theorem stripComments_eq_outsideComments {text : Text}
    (hbodies : ∀ body ∈ blockBodies text, '*' ∉ body) :
    stripComments text = outsideComments text := by
  unfold outsideComments
  unfold blockBodies at hbodies
  fun_induction pieces text with
  | case1 =>
    rw [stripComments]
    rfl
  | case2 cs body rest hcut ih =>
    obtain ⟨hstar, hbodies⟩ := List.forall_mem_cons.mp hbodies
    have hafter := afterBlock?_eq_some_iff_cutAtCloser?.mpr ⟨body, hcut, hstar⟩
    rw [stripComments_block hafter, ih hbodies]
    rfl
  | case3 cs hcut ih =>
    -- without any closer there is none behind a body without stars
    have hafter : afterBlock? cs = none := by
      rw [Option.eq_none_iff_forall_ne_some]
      intro rest hrest
      obtain ⟨body, hsome, _⟩ := afterBlock?_eq_some_iff_cutAtCloser?.mp hrest
      rw [hcut] at hsome
      cases hsome
    rw [stripComments_open hafter, ih hbodies]
    rfl
  | case4 cs ih =>
    rw [stripComments_line, ih hbodies]
    rfl
  | case5 c cs hblock hline ih =>
    rw [stripComments_cons (opener_not_isPrefix_cons '/' hline)
      (opener_not_isPrefix_cons '*' hblock), ih hbodies]
    rfl

/-- A value that is one block comment, closed by the first closer in it, has nothing outside. -/
theorem outsideComments_block {body : Text} (hfirst : ¬ blockCloser <:+: body ++ ['*']) :
    outsideComments (block body) = [] := by
  have hcut := cutAtCloser?_complete hfirst []
  have hblock : block body = '/' :: '*' :: (body ++ ['*', '/']) := rfl
  rw [hblock, outsideComments, pieces]
  split
  · next heq =>
    rw [hcut] at heq
    cases heq
    rw [pieces]
    rfl
  · next heq =>
    rw [hcut] at heq
    cases heq

/-- A star in a block comment keeps its opener where it is. -/
theorem clean_block_ne_nil {body : Text} (hfirst : ¬ blockCloser <:+: body ++ ['*'])
    (hstar : '*' ∈ body) : clean (block body) ≠ [] := by
  have hafter : afterBlock? (body ++ ['*', '/']) = none := by
    rw [Option.eq_none_iff_forall_ne_some]
    intro rest hrest
    obtain ⟨other, hcut, hfree⟩ := afterBlock?_eq_some_iff_cutAtCloser?.mp hrest
    rw [cutAtCloser?_complete hfirst] at hcut
    cases hcut
    exact hfree hstar
  have hkept : '/' ∈ stripComments (block body) := by
    have hblock : block body = '/' :: '*' :: (body ++ ['*', '/']) := rfl
    rw [hblock, stripComments_open hafter]
    exact List.mem_cons_self
  intro hclean
  exact absurd (trim_eq_nil_iff.mp hclean '/' hkept) (by decide)

/-- When cleaning takes every comment away. Of a value without a star in the body of a block comment
    exactly what stands outside of its comments is left, trimmed. Whether a value that is one block
    comment is taken away is decided by the stars in its body alone. -/
theorem clean_eq_trim_outsideComments (value : Text) :
    ((∀ body ∈ blockBodies value, '*' ∉ body) → clean value = trim (outsideComments value)) ∧
    ∀ body, value = block body → ¬ blockCloser <:+: body ++ ['*'] →
      (clean value = trim (outsideComments value) ↔ '*' ∉ body) := by
  constructor
  · intro hbodies
    rw [clean, stripComments_eq_outsideComments hbodies]
  · rintro body rfl hfirst
    have houtside := outsideComments_block hfirst
    constructor
    · intro hclean hstar
      rw [houtside] at hclean
      exact clean_block_ne_nil hfirst hstar hclean
    · intro hstar
      have hafter := afterBlock?_eq_some_iff_cutAtCloser?.mpr
        ⟨body, cutAtCloser?_complete hfirst [], hstar⟩
      have hstrip : stripComments (block body) = stripComments [] := stripComments_block hafter
      simp [clean, houtside, hstrip]

/-- A line comment in a block comment, a block comment in a line comment, an opener whose star is
    not the star of a closer, and an opener that stays open. Then a documentation comment. -/
theorem clean_eq_trim_outsideComments_nested :
    ((∀ body ∈ blockBodies "/* a // b */flex//* c */\n/*/ d */ mt-4 /* z // e".toList,
        '*' ∉ body) ∧
      clean "/* a // b */flex//* c */\n/*/ d */ mt-4 /* z // e".toList =
        "flex\n mt-4 /* z".toList) ∧
    ¬ blockCloser <:+: "* layout ".toList ++ ['*'] ∧
    clean (block "* layout ".toList) ≠ trim (outsideComments (block "* layout ".toList)) := by
  have hbodies : ∀ body ∈ blockBodies "/* a // b */flex//* c */\n/*/ d */ mt-4 /* z // e".toList,
      '*' ∉ body := by
    decide +kernel
  have hfirst : ¬ blockCloser <:+: "* layout ".toList ++ ['*'] := by decide
  refine ⟨⟨hbodies, ?_⟩, hfirst, ?_⟩
  · rw [(clean_eq_trim_outsideComments _).1 hbodies]
    decide +kernel
  · rw [ne_eq, (clean_eq_trim_outsideComments _).2 _ rfl hfirst]
    decide

/-- Block comments are not always taken away. A star in the body, here one of the two that open a
    documentation comment, keeps all of it among the classes. -/
theorem exists_clean_ne_trim_outsideComments :
    ∃ value, value = "/** layout */ flex".toList ∧ clean value = value ∧
      trim (outsideComments value) = "flex".toList := by
  refine ⟨_, rfl, ?_, ?_⟩
  · decide +kernel
  · decide +kernel

end ClassList.Text
