import ClassList.Proofs.Options.Validation

namespace ClassList

namespace Utility

/-- The utilities that there are. No other can be chosen, so every name has been checked once. -/
inductive Obtained : Utility → Prop where
  | standard : Obtained standard
  | ofName {name : Text} {utility : Utility} (hname : Utility.ofName name = .ok utility) :
      Obtained utility
  | withImportPath {utility : Utility} (path : Text) (hutility : Obtained utility) :
      Obtained (utility.withImportPath path)
  | withImported {utility : Utility} (imported : Bool) (hutility : Obtained utility) :
      Obtained (utility.withImported imported)

theorem Obtained.isName {utility : Utility} (hutility : utility.Obtained) :
    Utility.isName utility.name = true := by
  induction hutility with
  | standard => decide
  | ofName hname =>
    obtain ⟨rfl, hvalid⟩ := ofName_eq_ok_iff.mp hname
    exact hvalid
  | withImportPath path _ ih => exact ih
  | withImported imported _ ih => exact ih

/-- Whether a resolver chooses among the utilities that there are, or none. -/
def Resolver.ChoosesObtained (resolver : Resolver) : Prop :=
  ∀ utility, resolver.choose () = .ok utility → utility.Obtained

theorem Resolver.choosesObtained_fixed {utility : Utility} (hutility : utility.Obtained) :
    (Resolver.fixed utility).ChoosesObtained := by
  intro chosen hchosen
  cases hchosen
  exact hutility

/-- The check of a chosen utility finds nothing wrong with it. -/
theorem Resolver.ChoosesObtained.resolve_eq {resolver : Resolver}
    (hresolver : resolver.ChoosesObtained) : resolver.resolve = resolver.choose () := by
  unfold resolve
  cases hchoose : resolver.choose () with
  | error cause => rfl
  | ok utility =>
    have hvalid : utility.validate = .ok () :=
      validate_eq_ok_iff.mpr (hresolver utility hchoose).isName
    change (do utility.validate; return utility) = _
    rw [hvalid]
    rfl

end Utility

namespace Options

namespace Change

/-- The choice of layout that a change sets, if it sets one. -/
def choice? : Change → Option Layout.Choice
  | .choice chosen => some chosen
  | _ => none

/-- The utility that a change sets, if it sets one. A resolver that fails sets none. -/
def utility? : Change → Option Utility
  | .utility chosen => some chosen
  | .resolved resolver => (resolver.choose ()).toOption
  | _ => none

/-- The name of a component that a change sets, if it sets one. -/
def component? : Change → Option Text
  | .component name => some name
  | _ => none

/-- Whether a change takes its utility from those that there are. -/
def ChoosesObtained : Change → Prop
  | .utility chosen => chosen.Obtained
  | .resolved resolver => resolver.ChoosesObtained
  | _ => True

theorem ChoosesObtained.obtained {step : Change} (hstep : step.ChoosesObtained)
    {utility : Utility} (hutility : step.utility? = some utility) : utility.Obtained := by
  cases step with
  | choice choice => cases hutility
  | utility chosen =>
    cases hutility
    exact hstep
  | resolved resolver =>
    change (resolver.choose ()).toOption = some utility at hutility
    cases hchoose : resolver.choose () with
    | error cause =>
      rw [hchoose] at hutility
      cases hutility
    | ok chosen =>
      rw [hchoose] at hutility
      cases hutility
      exact hstep utility hchoose
  | component name => cases hutility

end Change

/-- The value that a run of changes sets last, or the value from before the run. -/
def lastSet {α : Type} (set? : Change → Option α) (changes : List Change) (before : α) : α :=
  (changes.filterMap set?).getLast?.getD before

@[simp] theorem lastSet_cons {α : Type} (set? : Change → Option α) (step : Change)
    (changes : List Change) (before : α) :
    lastSet set? (step :: changes) before = lastSet set? changes ((set? step).getD before) := by
  unfold lastSet
  rw [List.filterMap_cons]
  cases set? step with
  | none => rfl
  | some value => rw [List.getLast?_cons, Option.getD_some, Option.getD_some]

theorem lastSet_eq_or_set {α : Type} (set? : Change → Option α) (changes : List Change)
    (before : α) :
    lastSet set? changes before = before ∨
      ∃ step ∈ changes, set? step = some (lastSet set? changes before) := by
  unfold lastSet
  cases hlast : (changes.filterMap set?).getLast? with
  | none => exact .inl rfl
  | some value => exact .inr (List.mem_filterMap.mp (List.mem_of_getLast? hlast))

theorem change_resolved {resolver : Utility.Resolver} (hresolver : resolver.ChoosesObtained)
    (options : Options) :
    options.change (.resolved resolver) =
      (resolver.choose ()).map fun utility => { options with utility } := by
  simp only [change, hresolver.resolve_eq]
  cases resolver.choose () with
  | error cause => rfl
  | ok utility => rfl

/-- A change sets its own field and keeps the others. One that fails keeps them all. -/
theorem change_eq {step : Change} (hstep : step.ChoosesObtained) (options : Options) :
    (options.change step).toOption.getD options =
      ⟨step.choice?.getD options.choice, step.utility?.getD options.utility,
        step.component?.getD options.component⟩ := by
  cases step with
  | choice choice => rfl
  | utility utility => rfl
  | resolved resolver =>
    rw [change_resolved hstep]
    simp only [Change.utility?]
    cases resolver.choose () with
    | error cause => rfl
    | ok utility => rfl
  | component name => rfl

/-- At the end of a run every field has the value that was set last. -/
theorem changeAll_eq {changes : List Change} (hchanges : ∀ step ∈ changes, step.ChoosesObtained)
    (options : Options) :
    options.changeAll changes =
      ⟨lastSet Change.choice? changes options.choice,
        lastSet Change.utility? changes options.utility,
        lastSet Change.component? changes options.component⟩ := by
  induction changes generalizing options with
  | nil => rfl
  | cons step changes ih =>
    obtain ⟨hstep, hrest⟩ := List.forall_mem_cons.mp hchanges
    simp only [lastSet_cons]
    exact (congrArg (changeAll · changes) (change_eq hstep options)).trans (ih hrest _)

theorem obtained_lastSet {changes : List Change}
    (hchanges : ∀ step ∈ changes, step.ChoosesObtained) {before : Utility}
    (hbefore : before.Obtained) : (lastSet Change.utility? changes before).Obtained := by
  rcases lastSet_eq_or_set Change.utility? changes before with hkept | ⟨step, hmem, hset⟩
  · rw [hkept]
    exact hbefore
  · exact (hchanges step hmem).obtained hset

end Options

theorem Organizer.buildResolved_eq {resolver : Utility.Resolver}
    (hresolver : resolver.ChoosesObtained) (choice : Layout.Choice) :
    buildResolved choice resolver =
      (resolver.choose ()).map fun utility => ofOptions { choice, utility } := by
  unfold buildResolved
  rw [Options.change_resolved hresolver]
  cases hchoose : resolver.choose () with
  | error cause => rfl
  | ok utility =>
    have hname : Utility.isName utility.name = true := (hresolver utility hchoose).isName
    have hblank : ("select".toList.all fun c => !Text.isBlank c) = true := by decide
    have hcomponent : Text.IsWord "select".toList := ⟨by decide, by simpa using hblank⟩
    exact build_eq_ok_iff.mpr ⟨Options.validate_eq_ok_iff.mpr ⟨hname, hcomponent⟩, rfl⟩

/-- What a run of changes leaves behind. However its changes are mixed and whichever of them fail,
    every field has the value that was set last, or the standard one, and the layout follows from
    the last choice and the last utility. The utility can be called by its name, so that a check of
    the configuration can only refuse the component, and does so exactly if that is no single word.
    An organizer of a choice and a resolver fails exactly as the resolver does. -/
theorem Options.changeAll_invariant :
    (∀ changes : List Change, (∀ step ∈ changes, step.ChoosesObtained) →
      ∀ final : Options, final = changeAll {} changes →
        final.choice = lastSet Change.choice? changes .standard ∧
        final.utility = lastSet Change.utility? changes .standard ∧
        final.component = lastSet Change.component? changes "select".toList ∧
        final.layout = (lastSet Change.choice? changes .standard).resolve
          (lastSet Change.utility? changes .standard) ∧
        Utility.isName final.utility.name = true ∧
        (final.validate = .ok () ↔ Text.IsWord final.component) ∧
        (∀ cause, final.validate = .error cause ↔
          cause = .invalidComponentName final.component ∧ ¬ Text.IsWord final.component) ∧
        (∀ organizer, Organizer.build final = .ok organizer ↔
          Text.IsWord final.component ∧ organizer = .ofOptions final) ∧
        ∀ cause, Organizer.build final = .error cause ↔
          cause = .invalidComponentName final.component ∧ ¬ Text.IsWord final.component) ∧
    ∀ (choice : Layout.Choice) (resolver : Utility.Resolver), resolver.ChoosesObtained →
      (∀ cause, Organizer.buildResolved choice resolver = .error cause ↔
        resolver.choose () = .error cause) ∧
      ∀ utility, resolver.choose () = .ok utility →
        Organizer.buildResolved choice resolver = .ok (.ofOptions { choice, utility }) := by
  constructor
  · rintro changes hchanges final rfl
    have hname : Utility.isName (changeAll {} changes).utility.name = true := by
      rw [changeAll_eq hchanges]
      exact (obtained_lastSet hchanges .standard).isName
    have hvalid : (changeAll {} changes).validate = .ok () ↔
        Text.IsWord (changeAll {} changes).component := by
      rw [validate_eq_ok_iff, and_iff_right hname]
    refine ⟨?_, ?_, ?_, ?_, hname, hvalid, ?_, ?_, ?_⟩
    · rw [changeAll_eq hchanges]
    · rw [changeAll_eq hchanges]
    · rw [changeAll_eq hchanges]
    · rw [changeAll_eq hchanges]
      rfl
    · intro cause
      exact validate_eq_error_iff hname
    · intro organizer
      rw [Organizer.build_eq_ok_iff, hvalid]
    · intro cause
      rw [Organizer.build_eq_error_iff, validate_eq_error_iff hname]
  · intro choice resolver hresolver
    rw [Organizer.buildResolved_eq hresolver]
    constructor
    · intro cause
      cases resolver.choose () with
      | error reason => simp [Except.map]
      | ok utility => simp [Except.map]
    · intro utility hchoose
      rw [hchoose]
      rfl

/-- A run with a resolver that fails after another one has chosen an imported utility, and with a
    component that is left without a name. The choice that is made last is resolved at the end. -/
theorem Options.changeAll_invariant_failing_resolver :
    ∃ changes : List Change,
      changes = [.component "div".toList, .resolved (.fixed ⟨"cn".toList, none, true⟩),
        .choice (.always .multiline), .component [],
        .resolved ⟨fun _ => .error (.invalidUtilityName "1".toList)⟩, .choice .auto] ∧
      (∀ step ∈ changes, step.ChoosesObtained) ∧
      (changeAll {} changes).utility = ⟨"cn".toList, none, true⟩ ∧
      (changeAll {} changes).layout = .withComments ∧
      Organizer.build (changeAll {} changes) = .error (.invalidComponentName []) ∧
      (Utility.Resolver.fixed ⟨"cn".toList, none, true⟩).ChoosesObtained ∧
      Organizer.buildResolved .auto (.fixed ⟨"cn".toList, none, true⟩) =
        .ok (.ofOptions { choice := .auto, utility := ⟨"cn".toList, none, true⟩ }) := by
  have hcn : Utility.Obtained ⟨"cn".toList, none, true⟩ :=
    .withImported true (.ofName (if_pos (by decide : Utility.isName "cn".toList = true)))
  have hfixed : (Utility.Resolver.fixed ⟨"cn".toList, none, true⟩).ChoosesObtained :=
    Utility.Resolver.choosesObtained_fixed hcn
  have hfailing : (⟨fun _ => .error (.invalidUtilityName "1".toList)⟩ :
      Utility.Resolver).ChoosesObtained := by
    intro utility hchoose
    cases hchoose
  have hchanges : ∀ step ∈ [Change.component "div".toList,
      .resolved (.fixed ⟨"cn".toList, none, true⟩), .choice (.always .multiline), .component [],
      .resolved ⟨fun _ => .error (.invalidUtilityName "1".toList)⟩, .choice .auto],
      step.ChoosesObtained := by
    simp only [List.forall_mem_cons]
    exact ⟨trivial, hfixed, trivial, trivial, hfailing, trivial, by simp⟩
  obtain ⟨hrun, hresolved⟩ := changeAll_invariant
  obtain ⟨_, hutility, hcomponent, hlayout, _, _, _, _, hbuild⟩ := hrun _ hchanges _ rfl
  refine ⟨_, rfl, hchanges, hutility, hlayout, (hbuild _).mpr ⟨?_, ?_⟩, hfixed,
    (hresolved .auto _ hfixed).2 _ rfl⟩
  · rw [hcomponent]
    rfl
  · rw [hcomponent]
    exact fun hword => hword.1 rfl

end ClassList
