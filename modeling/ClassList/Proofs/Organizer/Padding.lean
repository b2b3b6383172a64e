import ClassList.Proofs.Organizer.Settled

namespace ClassList

namespace Text

theorem not_mem_of_blank {c : Char} (hc : isBlank c = false) {blanks : Text}
    (hblanks : ∀ blank ∈ blanks, isBlank blank = true) : c ∉ blanks := by
  intro hmem
  rw [hblanks c hmem] at hc
  cases hc

/-- Every closer ends with a slash. So if there is none behind a text, the block comments that close
    are those that close in the text. -/
theorem afterBlock?_append {tail : Text} (hslash : '/' ∉ tail) (text : Text) :
    afterBlock? (text ++ tail) = (afterBlock? text).map (· ++ tail) := by
  cases hafter : afterBlock? text with
  | some rest =>
    obtain ⟨body, hbody, rfl⟩ := afterBlock?_eq_some_iff.mp hafter
    exact afterBlock?_eq_some_iff.mpr ⟨body, hbody, by simp⟩
  | none =>
    have hopen : ∀ body after, '*' ∉ body → text ≠ body ++ '*' :: '/' :: after := by
      intro body after hbody htext
      rw [afterBlock?_eq_some_iff.mpr ⟨body, hbody, htext⟩] at hafter
      cases hafter
    apply Option.eq_none_iff_forall_ne_some.mpr
    intro rest hrest
    obtain ⟨body, hbody, hsplit⟩ := afterBlock?_eq_some_iff.mp hrest
    have hclosed : text ++ tail = (body ++ ['*'] ++ ['/']) ++ rest := by simpa using hsplit
    rcases List.append_eq_append_iff.mp hclosed with ⟨left, hbody', rfl⟩ | ⟨after, htext, _⟩
    · rcases List.suffix_concat_iff.mp ⟨text, hbody'.symm⟩ with rfl | ⟨front, rfl, _⟩
      · exact hopen body [] hbody (by simpa using hbody'.symm)
      · exact hslash (by simp)
    · exact hopen body after hbody (by simpa using htext)

theorem stripComments_eq_self_of_slash {text : Text} (hslash : '/' ∉ text) :
    stripComments text = text := by
  simpa using stripComments_append hslash []

/-- A text is read in the same way whatever stands behind it, if nothing there belongs to an opener
    or a closer. What is lost of it is at most the rest of a line comment. -/
theorem exists_stripComments_append {tail : Text} (hslash : '/' ∉ tail) (hstar : '*' ∉ tail)
    (text : Text) :
    ∃ rest, rest <:+ tail ∧ stripComments (text ++ tail) = stripComments text ++ rest := by
  fun_induction stripComments text with
  | case1 => exact ⟨tail, List.suffix_rfl, stripComments_eq_self_of_slash hslash⟩
  | case2 cs rest hafter ih =>
    have hafter' : afterBlock? (cs ++ tail) = some (rest ++ tail) := by
      rw [afterBlock?_append hslash, hafter]
      rfl
    rw [List.cons_append, List.cons_append, stripComments_block hafter']
    exact ih
  | case3 cs hafter ih =>
    have hafter' : afterBlock? (cs ++ tail) = none := by
      rw [afterBlock?_append hslash, hafter]
      rfl
    obtain ⟨rest, hrest, hstrip⟩ := ih
    refine ⟨rest, hrest, ?_⟩
    rw [List.cons_append, List.cons_append, stripComments_open hafter', ← List.cons_append, hstrip]
    rfl
  | case4 cs ih =>
    rw [List.cons_append, List.cons_append, stripComments_line, afterLine, List.dropWhile_append]
    split
    · next hopen =>
      -- the comment goes on behind the text, up to a line feed there
      have hnone : afterLine cs = [] := List.isEmpty_iff.mp hopen
      have hrest : afterLine tail <:+ tail := List.dropWhile_suffix _
      refine ⟨afterLine tail, hrest, ?_⟩
      rw [hnone, stripComments_nil]
      exact stripComments_eq_self_of_slash fun hmem => hslash (hrest.subset hmem)
    · exact ih
  | case5 c cs hblock hline ih =>
    obtain ⟨rest, hrest, hstrip⟩ := ih
    refine ⟨rest, hrest, ?_⟩
    have htail : ∀ d ∈ tail.head?, d ∉ lineOpener ∧ d ∉ blockOpener := by
      intro d hd
      have hmem : d ∈ tail := List.mem_of_mem_head? hd
      have hne : d ≠ '/' ∧ d ≠ '*' :=
        ⟨fun heq => hslash (heq ▸ hmem), fun heq => hstar (heq ▸ hmem)⟩
      simpa [lineOpener, blockOpener] using hne
    rw [stripComments_cons_append htail (opener_not_isPrefix_cons '/' hline)
      (opener_not_isPrefix_cons '*' hblock), hstrip]
    rfl

section

variable {front back : Text} (hfront : ∀ c ∈ front, isBlank c = true)
  (hback : ∀ c ∈ back, isBlank c = true)
include hfront hback

theorem trim_padded (text : Text) : trim (front ++ text ++ back) = trim text := by
  rw [trim_append_trailing hback, trim_append_of_blank hfront]

theorem clean_padded (value : Text) : clean (front ++ value ++ back) = clean value := by
  obtain ⟨rest, hrest, hstrip⟩ := exists_stripComments_append (not_mem_of_blank (by decide) hback)
    (not_mem_of_blank (by decide) hback) (front ++ value)
  have hblank : ∀ c ∈ rest, isBlank c = true := fun c hc => hback c (hrest.subset hc)
  rw [clean, hstrip, stripComments_append (not_mem_of_blank (by decide) hfront),
    trim_padded hfront hblank, clean]

end

end Text

/-- Neither what a value is cleaned to nor what its organized form is compared with depends on the
    white space around it. So no way to organize class lists makes a difference. -/
theorem Fix.propose_padded {front back : Text} (hfront : ∀ c ∈ front, Text.isBlank c = true)
    (hback : ∀ c ∈ back, Text.isBlank c = true) (options : Options) (organize : Text → Text)
    (value : Text) :
    propose options organize (front ++ value ++ back) = propose options organize value := by
  have hclean := Text.clean_padded hfront hback value
  have hcurrent : current options.layout (front ++ value ++ back) =
      current options.layout value := by
    cases options.layout with
    | inline => exact hclean
    | multiline => exact Text.trim_padded hfront hback value
    | withComments => exact hclean
  rw [propose_eq, propose_eq, hclean, hcurrent]

namespace Organizer

/-- White space around a value never changes its fix. In every layout, a value with white space in
    front of it and behind it, line feeds included, needs a fix exactly if the value without does,
    and then has the same one. So it is also if the value starts or ends with a comment, or with the
    opener of one that does not close. -/
theorem fix_padded (options : Options) {front back : Text}
    (hfront : ∀ c ∈ front, Text.isBlank c = true) (hback : ∀ c ∈ back, Text.isBlank c = true)
    (value : Text) :
    (ofOptions options).fix (front ++ value ++ back) = (ofOptions options).fix value :=
  Fix.propose_padded hfront hback options _ value

/-- A value that starts with a line comment and ends with one behind an opener that stays open. The
    white space behind it goes on for that comment at first, and ends it. -/
theorem fix_padded_comments :
    (∀ c ∈ "\u3000\n".toList, Text.isBlank c = true) ∧
    (∀ c ∈ "\u2028 \n\t".toList, Text.isBlank c = true) ∧
    (ofOptions { choice := .always .multiline }).fix
        ("\u3000\n".toList ++ "// a\nz-1 flex /* b // c".toList ++ "\u2028 \n\t".toList) =
      some ⟨"// Layout\nflex\n// Coordinates\nz-1\n// Other\n/* b".toList, false, false⟩ := by
  have hfront : ∀ c ∈ "\u3000\n".toList, Text.isBlank c = true :=
    List.all_eq_true.mp (by decide)
  have hback : ∀ c ∈ "\u2028 \n\t".toList, Text.isBlank c = true :=
    List.all_eq_true.mp (by decide)
  refine ⟨hfront, hback, ?_⟩
  rw [fix_padded _ hfront hback]
  decide +kernel

end Organizer

end ClassList
