import ClassList.Pattern
import ClassList.Proofs.Text.Comment
import Mathlib.Data.List.Infix

namespace ClassList.Text

/-- What a block comment ends with. -/
def blockCloser : Text :=
  "*/".toList

/-- A block comment around a body. -/
def block (body : Text) : Text :=
  blockOpener ++ body ++ blockCloser

/-- A text without comments. A line comment is there as soon as it opens. A block comment has to
    close as well, and does so at the first star in it. -/
structure HoldsNoComment (text : Text) : Prop where
  line : ¬ lineOpener <:+: text
  block : ∀ body, '*' ∉ body → ¬ Text.block body <:+: text

theorem HoldsNoComment.of_isInfix {text inside : Text} (htext : HoldsNoComment text)
    (h : inside <:+: text) : HoldsNoComment inside :=
  ⟨fun hopener => htext.line (hopener.trans h),
    fun body hbody hinside => htext.block body hbody (hinside.trans h)⟩

theorem holdsNoComment_nil : HoldsNoComment [] := by
  constructor
  · simp [lineOpener]
  · simp [block, blockOpener]

/-- A character where no comment starts makes no difference. -/
theorem holdsNoComment_cons_iff {c : Char} {text : Text} (hline : ¬ lineOpener <+: c :: text)
    (hblock : ∀ body, '*' ∉ body → ¬ block body <+: c :: text) :
    HoldsNoComment (c :: text) ↔ HoldsNoComment text := by
  constructor
  · intro htext
    exact htext.of_isInfix (List.infix_cons List.infix_rfl)
  · intro htext
    constructor
    · intro hinside
      rcases List.infix_cons_iff.mp hinside with hstart | hinside
      · exact hline hstart
      · exact htext.line hinside
    · intro body hbody hinside
      rcases List.infix_cons_iff.mp hinside with hstart | hinside
      · exact hblock body hbody hstart
      · exact htext.block body hbody hinside

theorem blockOpener_isPrefix_of_block {body text : Text} (h : block body <+: text) :
    blockOpener <+: text := by
  rw [block, List.append_assoc] at h
  exact (List.prefix_append _ _).trans h

theorem exists_afterBlock?_iff {text : Text} :
    (∃ rest, afterBlock? text = some rest) ↔
      ∃ body, '*' ∉ body ∧ block body <+: '/' :: '*' :: text := by
  constructor
  · rintro ⟨rest, hafter⟩
    obtain ⟨body, hbody, rfl⟩ := afterBlock?_eq_some_iff.mp hafter
    exact ⟨body, hbody, rest, by simp [block, blockOpener, blockCloser]⟩
  · rintro ⟨body, hbody, rest, hsplit⟩
    refine ⟨rest, afterBlock?_eq_some_iff.mpr ⟨body, hbody, ?_⟩⟩
    simpa [block, blockOpener, blockCloser] using hsplit.symm

theorem block_not_isPrefix_of_afterBlock?_eq_none {text : Text} (hafter : afterBlock? text = none) :
    ∀ body, '*' ∉ body → ¬ block body <+: '/' :: '*' :: text := by
  intro body hbody hstart
  obtain ⟨rest, hclosed⟩ := exists_afterBlock?_iff.mpr ⟨body, hbody, hstart⟩
  rw [hafter] at hclosed
  cases hclosed

/-- A text is left as it is exactly if it holds no comment. -/
theorem stripComments_eq_self_iff {text : Text} :
    stripComments text = text ↔ HoldsNoComment text := by
  fun_induction stripComments text with
  | case1 => exact iff_of_true rfl holdsNoComment_nil
  | case2 cs rest hafter ih =>
    apply iff_of_false
    · intro hkept
      have hle := (stripComments_sublist rest).length_le
      have hlt := length_afterBlock? hafter
      rw [hkept] at hle
      simp only [List.length_cons] at hle
      omega
    · intro htext
      obtain ⟨body, hbody, hstart⟩ := exists_afterBlock?_iff.mp ⟨rest, hafter⟩
      exact htext.block body hbody hstart.isInfix
  | case3 cs hafter ih =>
    have hline : ¬ lineOpener <+: '/' :: '*' :: cs := opener_not_isPrefix_cons '/' (by simp)
    rw [List.cons_inj_right, ih,
      holdsNoComment_cons_iff hline (block_not_isPrefix_of_afterBlock?_eq_none hafter)]
  | case4 cs ih =>
    apply iff_of_false
    · intro hkept
      have hle := (stripComments_sublist (afterLine cs)).length_le
      have hle' := length_afterLine_le cs
      rw [hkept] at hle
      simp only [List.length_cons] at hle
      omega
    · intro htext
      exact htext.line ⟨[], cs, rfl⟩
  | case5 c cs hblock hline ih =>
    have hopener : ¬ blockOpener <+: c :: cs := opener_not_isPrefix_cons '*' hblock
    rw [List.cons_inj_right, ih,
      holdsNoComment_cons_iff (opener_not_isPrefix_cons '/' hline) fun _ _ hstart =>
        hopener (blockOpener_isPrefix_of_block hstart)]

/-- The clean texts are those that are trimmed and hold no comment. -/
theorem clean_eq_self_iff {text : Text} :
    clean text = text ↔ trim text = text ∧ HoldsNoComment text := by
  constructor
  · intro hclean
    have hle := (trim_isInfix (stripComments text)).length_le
    rw [← clean, hclean] at hle
    refine ⟨by rw [← hclean, trim_clean], stripComments_eq_self_iff.mp ?_⟩
    exact (stripComments_sublist text).eq_of_length_le hle
  · rintro ⟨htrim, htext⟩
    rw [clean, stripComments_eq_self_iff.mpr htext, htrim]

theorem OpensNoComment.holdsNoComment {text : Text} (htext : OpensNoComment text) :
    HoldsNoComment text := by
  refine ⟨htext.line, ?_⟩
  intro body _ hinside
  exact htext.block ((blockOpener_isPrefix_of_block List.prefix_rfl).isInfix.trans hinside)

/-- A trimmed text in which no comment opens is clean. -/
theorem clean_eq_self {text : Text} (htrim : trim text = text) (htext : OpensNoComment text) :
    clean text = text :=
  clean_eq_self_iff.mpr ⟨htrim, htext.holdsNoComment⟩

/-- Whether the first star behind an opener, if there is one, always closes the comment. -/
def FirstStarCloses (text : Text) : Prop :=
  ∀ rest ∈ text.tails, blockOpener <+: rest → '*' ∈ rest.drop 2 →
    blockCloser <+: (rest.drop 2).dropWhile (· != '*')

instance (text : Text) : Decidable (FirstStarCloses text) :=
  inferInstanceAs (Decidable (∀ rest ∈ text.tails, _))

theorem FirstStarCloses.of_isSuffix {text rest : Text} (htext : FirstStarCloses text)
    (h : rest <:+ text) : FirstStarCloses rest := by
  intro inner hinner
  have hsuffix := ((List.mem_tails _ _).mp hinner).trans h
  exact htext inner ((List.mem_tails _ _).mpr hsuffix)

/-- An opener that opens no comment has no star behind it. -/
theorem FirstStarCloses.star_not_mem {text : Text} (htext : FirstStarCloses ('/' :: '*' :: text))
    (hafter : afterBlock? text = none) : '*' ∉ text := by
  intro hstar
  obtain ⟨rest, hrest⟩ := htext _ ((List.mem_tails _ _).mpr List.suffix_rfl) ⟨text, rfl⟩ hstar
  change "*/".toList ++ rest = text.dropWhile (· != '*') at hrest
  simp [afterBlock?, ← hrest] at hafter

/-- Where the first star behind every opener closes it, no comment is left. A comment that is kept
    would have to close at a star behind an opener that has none behind it. -/
theorem FirstStarCloses.holdsNoComment_stripComments {text : Text} (htext : FirstStarCloses text) :
    HoldsNoComment (stripComments text) := by
  fun_induction stripComments text with
  | case1 => exact holdsNoComment_nil
  | case2 cs rest hafter ih =>
    apply ih (htext.of_isSuffix _)
    exact (afterBlock?_isSuffix hafter).trans ⟨['/', '*'], rfl⟩
  | case3 cs hafter ih =>
    have hrest := ih (htext.of_isSuffix (List.suffix_cons _ _))
    have hstar : '*' ∉ stripComments cs := fun hmem =>
      htext.star_not_mem hafter ((stripComments_sublist cs).subset hmem)
    rw [stripComments_cons_of_ne (by decide)] at hrest ⊢
    refine (holdsNoComment_cons_iff (opener_not_isPrefix_cons '/' (by simp)) ?_).mpr hrest
    intro body hbody hstart
    obtain ⟨after, hclosed⟩ := exists_afterBlock?_iff.mpr ⟨body, hbody, hstart⟩
    obtain ⟨_, _, hsplit⟩ := afterBlock?_eq_some_iff.mp hclosed
    exact hstar (by simp [hsplit])
  | case4 cs ih =>
    apply ih (htext.of_isSuffix _)
    exact (List.dropWhile_suffix _).trans ⟨['/', '/'], rfl⟩
  | case5 c cs hblock hline ih =>
    have hopener : ¬ lineOpener <+: c :: cs := opener_not_isPrefix_cons '/' hline
    refine (holdsNoComment_cons_iff ?_ ?_).mpr (ih (htext.of_isSuffix (List.suffix_cons _ _)))
    · exact fun hstart => hopener (isPrefix_of_isPrefix_cons_stripComments hopener hstart)
    · intro body _ hstart
      exact opener_not_isPrefix_cons '*' hblock
        (isPrefix_of_isPrefix_cons_stripComments hopener (blockOpener_isPrefix_of_block hstart))

/-- When cleaning is done at once. A value is clean after one pass exactly if the pass leaves no
    block comment behind. Where the first star behind every opener closes it, none is left, and none
    is put together by the text that closes up around a comment. -/
theorem clean_clean_eq_clean_iff (value : Text) :
    (clean (clean value) = clean value ↔
      ∀ body, '*' ∉ body → ¬ block body <:+: clean value) ∧
    (FirstStarCloses value →
      HoldsNoComment (clean value) ∧ clean (clean value) = clean value) := by
  have hclean : clean (clean value) = clean value ↔ HoldsNoComment (clean value) :=
    clean_eq_self_iff.trans (and_iff_right (trim_clean value))
  constructor
  · rw [hclean]
    exact ⟨HoldsNoComment.block, HoldsNoComment.mk (lineOpener_not_isInfix_clean value)⟩
  · intro hvalue
    have hfree : HoldsNoComment (clean value) :=
      hvalue.holdsNoComment_stripComments.of_isInfix (trim_isInfix _)
    exact ⟨hfree, hclean.mpr hfree⟩

/-- A line comment that holds a block comment, a block comment that holds a line comment, and an
    opener that stays open. -/
theorem clean_clean_eq_clean_iff_open :
    FirstStarCloses "flex //* a */ b\n/* c\n// d */mt-4 /* z".toList ∧
    clean "flex //* a */ b\n/* c\n// d */mt-4 /* z".toList = "flex \nmt-4 /* z".toList ∧
    HoldsNoComment "flex \nmt-4 /* z".toList ∧
    clean "flex \nmt-4 /* z".toList = "flex \nmt-4 /* z".toList := by
  have hstars : FirstStarCloses "flex //* a */ b\n/* c\n// d */mt-4 /* z".toList := by
    decide +kernel
  have hclean : clean "flex //* a */ b\n/* c\n// d */mt-4 /* z".toList =
      "flex \nmt-4 /* z".toList := by
    decide +kernel
  obtain ⟨hfree, hagain⟩ := (clean_clean_eq_clean_iff _).2 hstars
  rw [hclean] at hfree hagain
  exact ⟨hstars, hclean, hfree, hagain⟩

/-- Cleaning is not always done at once. A star in a line comment keeps the block comment around it
    from closing, and with the line comment cut off the next pass takes the block comment away. -/
theorem exists_clean_clean_ne_clean :
    ∃ value, value = "/* x // *\n y */ flex".toList ∧
      clean value = "/* x \n y */ flex".toList ∧ clean (clean value) = "flex".toList := by
  refine ⟨_, rfl, ?_, ?_⟩
  · decide +kernel
  · decide +kernel

/-- No line comment outlasts cleaning. What is left is trimmed, whatever comments there were. Where
    no block comment opens, every line of the value is cut at its first two slashes and keeps its
    line feed, so that the words of different lines stay apart. -/
theorem clean_cuts_line_comments (value : Text) :
    ¬ lineOpener <:+: clean value ∧ trim (clean value) = clean value ∧
    (¬ blockOpener <:+: value →
      clean value = trim (join '\n' ((value.splitOn '\n').map cutLine)) ∧
      words (clean value) = (value.splitOn '\n').flatMap fun row => words (cutLine row)) := by
  refine ⟨lineOpener_not_isInfix_clean value, trim_clean value, ?_⟩
  intro hblock
  have hrows := feed_and_blockOpener_not_of_mem_splitOn hblock
  have hsplit : join '\n' (value.splitOn '\n') = value := join_splitOn value
  have hstrip := stripComments_join hrows
  have hwords := words_clean_join hrows
  rw [hsplit] at hstrip hwords
  exact ⟨by rw [clean, hstrip], hwords⟩

/-- Comments that end with a carriage return, at another slash, and with the value. -/
theorem clean_cuts_line_comments_return :
    ¬ blockOpener <:+: "//\nflex /// a*/\r\n mt-4 /x // b//c\nz-1///".toList ∧
    clean "//\nflex /// a*/\r\n mt-4 /x // b//c\nz-1///".toList =
      "flex \n mt-4 /x \nz-1".toList ∧
    words (clean "//\nflex /// a*/\r\n mt-4 /x // b//c\nz-1///".toList) =
      ["flex".toList, "mt-4".toList, "/x".toList, "z-1".toList] := by
  have hblock : ¬ blockOpener <:+: "//\nflex /// a*/\r\n mt-4 /x // b//c\nz-1///".toList := by
    rw [← occursIn_iff_isInfix]
    decide
  obtain ⟨hlines, hwords⟩ := (clean_cuts_line_comments _).2.2 hblock
  refine ⟨hblock, ?_, ?_⟩
  · rw [hlines]
    decide
  · rw [hwords]
    decide

end ClassList.Text
