import ClassList.Organizer

namespace ClassList

theorem Text.isWord_iff_not {text : Text} :
    IsWord text ↔ ¬ (text.isEmpty || text.any isBlank) = true := by
  simp [IsWord]

namespace Options

theorem validate_eq_ok_iff {options : Options} :
    options.validate = .ok () ↔
      Utility.isName options.utility.name = true ∧ Text.IsWord options.component := by
  unfold validate
  rw [← Utility.validate_eq_ok_iff, Text.isWord_iff_not]
  cases hutility : options.utility.validate with
  | error cause => simp [bind, Except.bind]
  | ok checked =>
    change (if _ then _ else _) = _ ↔ _
    split
    · next hcomponent => simp [hcomponent, throw, throwThe, MonadExceptOf.throw]
    · next hcomponent => simpa [pure, Except.pure] using hcomponent

/-- Where the utility can be called by its name, only the component is left to refuse. -/
theorem validate_eq_error_iff {options : Options}
    (hname : Utility.isName options.utility.name = true) {cause : Error} :
    options.validate = .error cause ↔
      cause = .invalidComponentName options.component ∧ ¬ Text.IsWord options.component := by
  have hchecked : options.validate =
      if options.component.isEmpty || options.component.any Text.isBlank
      then .error (.invalidComponentName options.component) else .ok () := by
    unfold validate
    rw [Utility.validate_eq_ok_iff.mpr hname]
    rfl
  rw [hchecked, Text.isWord_iff_not]
  split
  · next hcomponent => simp [hcomponent, eq_comm]
  · next hcomponent => simp [hcomponent]

end Options

theorem Organizer.build_eq_ok_iff {options : Options} {organizer : Organizer} :
    build options = .ok organizer ↔
      options.validate = .ok () ∧ organizer = ofOptions options := by
  unfold build
  cases options.validate with
  | error cause => simp [bind, Except.bind]
  | ok checked => simp [bind, Except.bind, pure, Except.pure, eq_comm]

theorem Organizer.build_eq_error_iff {options : Options} {cause : Error} :
    build options = .error cause ↔ options.validate = .error cause := by
  unfold build
  cases options.validate with
  | error reason => simp [bind, Except.bind]
  | ok checked => simp [bind, Except.bind, pure, Except.pure]

end ClassList
