import SchemaTypes.Text.Loose

/-!
# Texts and halves

A loose text is the loose form of a text, which is then the text it stands for, or it holds a half
and stands for none. Then the first half in it is the reason, and the place of that is told.
-/

namespace SchemaTypes.Text.Loose

/-- What stands behind a character decides whether there is a text. -/
theorem strict_cons_char (c : Char) (rest : Loose) :
    strict (.char c :: rest) =
      match rest.strict with
      | .ok text => .ok (String.ofList (c :: text.toList))
      | .error halves => .error { halves with position := halves.position + 1 } := by
  have skip : List.dropWhile (·.char?.isSome) (Point.char c :: rest) =
      rest.dropWhile (·.char?.isSome) := rfl
  rw [strict, strict, skip]
  split <;> simp [Point.char?]

/-- A loose text is the form of a text and stands for that, or it is refused by the first half in
it, for the place where that stands. -/
theorem strict_cases (loose : Loose) :
    (∃ text, loose = ofString text ∧ loose.strict = .ok text) ∨
      ∃ front number back, loose = ofString front ++ .half number :: back ∧ loose.strict =
        .error ⟨front.length, number, (back.takeWhile (·.char?.isNone)).length⟩ := by
  induction loose with
  | nil => exact .inl ⟨"", rfl, rfl⟩
  | cons point rest inductionHypothesis =>
    cases point with
    | half number => exact .inr ⟨"", number, rest, rfl, rfl⟩
    | char c =>
      rw [strict_cons_char]
      rcases inductionHypothesis with ⟨text, form, read⟩ | ⟨front, number, back, form, refused⟩
      · refine .inl ⟨String.ofList (c :: text.toList), ?_, by rw [read]⟩
        rw [form, ofString, ofString, String.toList_ofList, List.map_cons]
      · refine .inr ⟨String.ofList (c :: front.toList), number, back, ?_, ?_⟩
        · rw [form, ofString, ofString, String.toList_ofList, List.map_cons, List.cons_append]
        · rw [refused]
          simp [Nat.add_comm]

/-- The loose form of a text holds no half. -/
theorem half_notMem_ofString (number : Fin 0x800) (text : String) :
    .half number ∉ ofString text := by
  simp [ofString]

/-- Different texts have different loose forms. -/
theorem ofString_inj {left right : String} : ofString left = ofString right ↔ left = right := by
  rw [ofString, ofString, List.map_inj_right (fun _ _ same => Point.char.inj same),
    String.toList_inj]

/-- A loose text stands for the text whose form it is, and for no other. -/
theorem strict_eq_ok_iff {loose : Loose} {text : String} :
    loose.strict = .ok text ↔ loose = ofString text := by
  rcases strict_cases loose with ⟨other, form, read⟩ | ⟨front, number, back, form, refused⟩
  · rw [read, form, ofString_inj, Except.ok.injEq]
  · rw [refused, form]
    refine iff_of_false nofun fun same => ?_
    exact half_notMem_ofString number text (same ▸ by simp)

/-- The loose form of a text stands for it. -/
@[simp] theorem strict_ofString (text : String) : (ofString text).strict = .ok text :=
  strict_eq_ok_iff.2 rfl

end SchemaTypes.Text.Loose
