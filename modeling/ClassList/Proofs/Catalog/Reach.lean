import ClassList.Proofs.Catalog.Variant
import ClassList.Text.Blank

namespace ClassList.Catalog

/-- A catalogue without the empty pattern. -/
def NoEmptyPattern (catalog : Catalog) : Prop :=
  ∀ group ∈ catalog, ∀ pattern ∈ group.patterns, pattern.text ≠ []

theorem noEmptyPattern_standard : standard.NoEmptyPattern :=
  fun group hgroup pattern hpattern => (patterns_standard group hgroup pattern hpattern).1

/-- A pattern that accepts a token has the place of the token, if its group is the one that the
    token belongs to: a group in front of it would accept the token as well. -/
theorem NoEmptyPattern.exists_rank?_text_eq {catalog : Catalog} (hne : catalog.NoEmptyPattern)
    {token : Text} {position : Nat} (hrank : catalog.rank? token = some position) :
    ∃ group, catalog[position]? = some group ∧
      ∃ pattern ∈ group.patterns, catalog.rank? pattern.text = some position := by
  obtain ⟨hbound, haccepts, hearlier⟩ := List.findIdx?_eq_some_iff_getElem.mp hrank
  obtain ⟨pattern, hpattern, htoken⟩ := List.any_eq_true.mp haccepts
  refine ⟨catalog[position], List.getElem?_eq_getElem hbound, pattern, hpattern, ?_⟩
  apply List.findIdx?_eq_some_iff_getElem.mpr
  refine ⟨hbound, List.any_eq_true.mpr ⟨pattern, hpattern, pattern.accepts_text⟩, ?_⟩
  intro first hfirst htext
  obtain ⟨shadow, hshadow, hcovers⟩ := List.any_eq_true.mp htext
  have hshadow_ne : shadow.text ≠ [] := hne _ (List.getElem_mem _) shadow hshadow
  apply hearlier first hfirst
  exact List.any_eq_true.mpr ⟨shadow, hshadow, Pattern.accepts_trans hshadow_ne hcovers htoken⟩

theorem NoEmptyPattern.exists_rank?_eq_iff {catalog : Catalog} (hne : catalog.NoEmptyPattern)
    (position : Nat) :
    (∃ token, catalog.rank? token = some position) ↔
      ∃ group, catalog[position]? = some group ∧
        ∃ pattern ∈ group.patterns, catalog.rank? pattern.text = some position := by
  constructor
  · rintro ⟨token, hrank⟩
    exact hne.exists_rank?_text_eq hrank
  · rintro ⟨group, _, pattern, _, hrank⟩
    exact ⟨pattern.text, hrank⟩

/-- The finite check on the standard catalogue. The patterns of one group fail it. -/
theorem rank?_text_standard {position : Nat} {group : Group}
    (hgroup : standard[position]? = some group) :
    (group.label = "Group".toList ∧
      ∀ pattern ∈ group.patterns, standard.rank? pattern.text ≠ some position) ∨
    (group.label ≠ "Group".toList ∧
      ∃ pattern ∈ group.patterns, (pattern.text.all fun c => !Text.isBlank c) = true ∧
        standard.rank? pattern.text = some position) := by
  have hcheck : ∀ entry ∈ standard.zipIdx,
      (entry.1.label = "Group".toList ∧
        ∀ pattern ∈ entry.1.patterns, standard.rank? pattern.text ≠ some entry.2) ∨
      (entry.1.label ≠ "Group".toList ∧
        ∃ pattern ∈ entry.1.patterns, (pattern.text.all fun c => !Text.isBlank c) = true ∧
          standard.rank? pattern.text = some entry.2) := by
    decide +kernel
  exact hcheck (group, position) (List.mk_mem_zipIdx_iff_getElem?.mpr hgroup)

theorem label_ne_of_rank?_standard {token : Text} {position : Nat} {group : Group}
    (hrank : standard.rank? token = some position) (hgroup : standard[position]? = some group) :
    group.label ≠ "Group".toList := by
  obtain ⟨found, hfound, pattern, hpattern, htext⟩ :=
    noEmptyPattern_standard.exists_rank?_text_eq hrank
  obtain rfl : group = found := Option.some.inj (hgroup.symm.trans hfound)
  rcases rank?_text_standard hgroup with ⟨_, hdead⟩ | ⟨hlabel, _⟩
  · exact absurd htext (hdead pattern hpattern)
  · exact hlabel

theorem exists_isWord_rank?_standard {position : Nat} {group : Group}
    (hgroup : standard[position]? = some group) (hlabel : group.label ≠ "Group".toList) :
    ∃ token, Text.IsWord token ∧ standard.rank? token = some position := by
  rcases rank?_text_standard hgroup with ⟨hdead, _⟩ | ⟨_, pattern, hpattern, hblank, hrank⟩
  · exact absurd hdead hlabel
  · have hne : pattern.text ≠ [] :=
      noEmptyPattern_standard group (List.mem_of_getElem? hgroup) pattern hpattern
    exact ⟨pattern.text, ⟨hne, by simpa using hblank⟩, hrank⟩

theorem label_classify_standard_ne (token : Text) :
    (standard.classify token).map Group.label ≠ some "Group".toList := by
  intro hlabel
  obtain ⟨group, hclassify, hgroup_label⟩ := Option.map_eq_some_iff.mp hlabel
  obtain ⟨position, hrank, hgroup⟩ := Option.bind_eq_some_iff.mp hclassify
  exact label_ne_of_rank?_standard hrank hgroup hgroup_label

/-- A group that accepts a family accepts all that has the family in it. -/
theorem exists_rank?_of_family_isInfix {catalog : Catalog} {position : Nat} {group : Group}
    (hgroup : catalog[position]? = some group) {pattern : Pattern}
    (hpattern : pattern ∈ group.patterns) (hkind : pattern.kind = .family) {token : Text}
    (htoken : pattern.text <:+: token) :
    ∃ rank ≤ position, catalog.rank? token = some rank := by
  apply exists_rank?_of_accepts hgroup
  exact List.any_eq_true.mpr ⟨pattern, hpattern, (Pattern.accepts_of_family hkind).mpr htoken⟩

theorem exists_spacing_standard : ∃ (spacing : Nat) (group : Group),
    standard[spacing]? = some group ∧ group.label = "Spacing".toList ∧
      ⟨"p-".toList⟩ ∈ group.patterns := by
  have hspacing : ∃ group ∈ standard,
      group.label = "Spacing".toList ∧ ⟨"p-".toList⟩ ∈ group.patterns := by
    decide +kernel
  obtain ⟨group, hmem, hlabel, hpattern⟩ := hspacing
  obtain ⟨spacing, hgroup⟩ := List.mem_iff_getElem?.mp hmem
  exact ⟨spacing, group, hgroup, hlabel, hpattern⟩

theorem exists_label_eq_group_standard : ∃ group ∈ standard,
    group.label = "Group".toList ∧ group.patterns = [⟨"group-".toList⟩] := by
  decide +kernel

/-- Reach is decided by the patterns. In a catalogue without the empty pattern, a group has a token
    of its own exactly if one of its patterns is such a token. In the standard catalogue every
    group has one, and it can be a word, but for the one labelled as a group: what has its only
    pattern in it belongs to Spacing or to an earlier group. -/
theorem reach_decided_by_patterns :
    (∀ catalog : Catalog, catalog.NoEmptyPattern → ∀ position,
      (∃ token, catalog.rank? token = some position) ↔
        ∃ group, catalog[position]? = some group ∧
          ∃ pattern ∈ group.patterns, catalog.rank? pattern.text = some position) ∧
    standard.NoEmptyPattern ∧
    (∀ position group, standard[position]? = some group →
      ((∃ token, Text.IsWord token ∧ standard.rank? token = some position) ↔
        group.label ≠ "Group".toList)) ∧
    (∀ token, (standard.classify token).map Group.label ≠ some "Group".toList) ∧
    (∃ group ∈ standard,
      group.label = "Group".toList ∧ group.patterns = [⟨"group-".toList⟩]) ∧
    ∃ (spacing : Nat) (group : Group),
      standard[spacing]? = some group ∧ group.label = "Spacing".toList ∧
      ∀ token, "group-".toList <:+: token →
        ∃ rank ≤ spacing, standard.rank? token = some rank := by
  refine ⟨fun _ hne => hne.exists_rank?_eq_iff, noEmptyPattern_standard, ?_,
    label_classify_standard_ne, exists_label_eq_group_standard, ?_⟩
  · intro position group hgroup
    constructor
    · rintro ⟨token, _, hrank⟩
      exact label_ne_of_rank?_standard hrank hgroup
    · exact exists_isWord_rank?_standard hgroup
  · obtain ⟨spacing, group, hgroup, hlabel, hpattern⟩ := exists_spacing_standard
    refine ⟨spacing, group, hgroup, hlabel, ?_⟩
    intro token htoken
    have hinside : "p-".toList <:+: "group-".toList := ⟨"grou".toList, [], by decide⟩
    exact exists_rank?_of_family_isInfix hgroup hpattern (by decide) (hinside.trans htoken)

/-- Two groups behind one that accepts what their first patterns do. The second of them has
    another pattern to be reached by. In the standard catalogue, the first group is reached, and a
    variant of the unreached group belongs to Spacing at the latest. -/
theorem reach_decided_by_patterns_shadowed :
    (∃ catalog : Catalog,
      catalog = [⟨"Spacing".toList, .utility, [⟨"p-".toList⟩]⟩,
        ⟨"Group".toList, .utility, [⟨"group-".toList⟩]⟩,
        ⟨"Flexbox".toList, .utility, [⟨"wrap-".toList⟩, ⟨"grow".toList⟩]⟩] ∧
      catalog.NoEmptyPattern ∧ (∀ token, catalog.rank? token ≠ some 1) ∧
      ∃ token, catalog.rank? token = some 2) ∧
    (∃ group : Group, standard[0]? = some group ∧
      ((∃ token, Text.IsWord token ∧ standard.rank? token = some 0) ↔
        group.label ≠ "Group".toList)) ∧
    ∃ (spacing : Nat) (group : Group), standard[spacing]? = some group ∧
      group.label = "Spacing".toList ∧
      ∃ rank ≤ spacing, standard.rank? "group-hover:flex".toList = some rank := by
  have hne : NoEmptyPattern [⟨"Spacing".toList, .utility, [⟨"p-".toList⟩]⟩,
      ⟨"Group".toList, .utility, [⟨"group-".toList⟩]⟩,
      ⟨"Flexbox".toList, .utility, [⟨"wrap-".toList⟩, ⟨"grow".toList⟩]⟩] := by
    unfold NoEmptyPattern
    decide
  obtain ⟨hreach, _, hstandard, _, _, spacing, group, hgroup, hlabel, hspacing⟩ :=
    reach_decided_by_patterns
  refine ⟨⟨_, rfl, hne, ?_, (hreach _ hne 2).mpr ⟨_, rfl, by decide⟩⟩,
    ⟨_, rfl, hstandard 0 _ rfl⟩,
    spacing, group, hgroup, hlabel, hspacing _ ⟨[], "hover:flex".toList, by decide⟩⟩
  intro token hrank
  obtain ⟨dead, hdead, hpattern⟩ := (hreach _ hne 1).mp ⟨token, hrank⟩
  cases hdead
  exact absurd hpattern (by decide)

end ClassList.Catalog
