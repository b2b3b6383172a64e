import ClassList.Proofs.Call.Reading

namespace ClassList

/-- The arguments of an element are those of the call of its sections, with a comma behind the last
    of them as well. -/
theorem Arrangement.flatMap_argument_eq {arrangement : Arrangement} (hsize : 0 < arrangement.size) :
    arrangement.buckets.flatMap Bucket.argument =
      ",\n".toList.intercalate (arrangement.sections.map Call.argument) ++ ",\n".toList := by
  have hne : arrangement.sections.map Call.argument ≠ [] := by
    simpa [sections] using List.ne_nil_of_length_pos hsize
  rw [← Text.flatMap_append_separator hne, sections, List.map_map, List.flatMap_map]
  exact congrArg arrangement.buckets.flatMap (funext Bucket.argument_eq)

namespace Element

/-- An element agrees with a call. With at least one section, its class attribute is the call of its
    sections with exactly one comma put in, in front of the line that closes the call. Without any,
    there is no argument for the comma to stand behind, and the element has no line there at all. -/
theorem render_eq_call_iff (component utility : Text) (arrangement : Arrangement) :
    (∃ written : Text,
      (Call.mk utility arrangement.sections).render = written ++ "\n  )\x7d".toList ∧
      (Element.mk component utility arrangement).render =
        '<' :: component ++ "\n  className=".toList ++
          (written ++ ',' :: "\n  )\x7d".toList) ++ "\n/>".toList) ↔
      0 < arrangement.size := by
  constructor
  · rintro ⟨written, hcall, helement⟩
    by_contra hsize
    have hnone : arrangement.buckets = [] :=
      List.length_eq_zero_iff.mp (Nat.eq_zero_of_not_pos hsize)
    have hwritten : written = Call.head utility ++ ['\n'] := by
      rw [Call.render, Arrangement.sections, hnone, List.append_left_inj] at hcall
      simpa using hcall.symm
    rw [Element.render, hnone, hwritten] at helement
    simp only [List.append_assoc, List.cons_append, List.cons_inj_right,
      List.append_cancel_left_eq] at helement
    -- the element closes where the comma would have to stand
    exact absurd helement (by decide)
  · intro hsize
    refine ⟨Call.head utility ++ ['\n'] ++
      ",\n".toList.intercalate (arrangement.sections.map Call.argument), rfl, ?_⟩
    have hclose : ",\n".toList ++ "  )\x7d\n/>".toList =
        ',' :: "\n  )\x7d".toList ++ "\n/>".toList := by
      decide
    rw [Element.render, Arrangement.flatMap_argument_eq hsize]
    simp only [List.append_assoc, hclose]

end Element

end ClassList
