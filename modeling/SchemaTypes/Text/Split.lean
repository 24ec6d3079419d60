/-!
# Cutting text at a separator

`splitFields` cuts at every occurrence of a separator and `cut?` at the first one. Both keep every
other character: joining the fields with the separator gives the text back.
-/

namespace SchemaTypes.Text

variable {α : Type} [DecidableEq α]

/-- The fields between the occurrences of the separator; a text without one is a single field. -/
def splitFields (separator : α) : List α → List (List α)
  | [] => [[]]
  | c :: rest =>
    if c = separator then [] :: splitFields separator rest
    else match splitFields separator rest with
      | [] => [[c]]
      | field :: fields => (c :: field) :: fields

/-- The text before and after the first occurrence of the separator, if there is one. -/
def cut? (separator : α) : List α → Option (List α × List α)
  | [] => none
  | c :: rest =>
    if c = separator then some ([], rest)
    else (cut? separator rest).map fun (before, after) => (c :: before, after)

/-- There is always at least one field. -/
theorem splitFields_ne_nil (separator : α) (text : List α) :
    splitFields separator text ≠ [] := by
  induction text with
  | nil => simp [splitFields]
  | cons c rest _ =>
    unfold splitFields
    split
    · simp
    · split <;> simp

/-- Splitting two texts joined by the separator is splitting each of them. -/
theorem splitFields_append (separator : α) (left right : List α) :
    splitFields separator (left ++ separator :: right) =
      splitFields separator left ++ splitFields separator right := by
  induction left with
  | nil => simp [splitFields]
  | cons c rest inductionHypothesis =>
    by_cases same : c = separator
    · simp [splitFields, same, inductionHypothesis]
    · simp only [List.cons_append, splitFields, same, if_false, inductionHypothesis]
      cases fields : splitFields separator rest with
      | nil => exact absurd fields (splitFields_ne_nil separator rest)
      | cons field others => simp

/-- A text without the separator is its own only field. -/
theorem splitFields_of_not_mem {separator : α} {text : List α} (absent : separator ∉ text) :
    splitFields separator text = [text] := by
  induction text with
  | nil => rfl
  | cons c rest inductionHypothesis =>
    simp only [List.mem_cons, not_or] at absent
    simp [splitFields, Ne.symm absent.1, inductionHypothesis absent.2]

omit [DecidableEq α] in
/-- Joined fields hold nothing but the separator and what the fields hold. -/
theorem notMem_intercalate {separator c : α} {fields : List (List α)} (different : c ≠ separator)
    (absent : ∀ field ∈ fields, c ∉ field) : c ∉ [separator].intercalate fields := by
  induction fields with
  | nil => simp
  | cons field rest inductionHypothesis =>
    have own : c ∉ field := absent field (by simp)
    have later := inductionHypothesis fun other member => absent other (by simp [member])
    cases rest with
    | nil => simpa using own
    | cons next others =>
      rw [List.intercalate_cons_cons]
      simp [own, different, later]

/-- A cut happens at the first separator: none stands before it, and the parts give the text. -/
theorem cut?_eq_some_iff {separator : α} {text before after : List α} :
    cut? separator text = some (before, after) ↔
      text = before ++ separator :: after ∧ separator ∉ before := by
  induction text generalizing before with
  | nil => simp [cut?]
  | cons c rest inductionHypothesis =>
    by_cases same : c = separator
    · subst same
      cases before with
      | nil => simp [cut?]
      | cons d ds => simp only [cut?, if_true]; grind
    · cases before with
      | nil => simp [cut?, same]
      | cons d ds =>
        simp only [cut?, same, if_false, Option.map_eq_some_iff, Prod.exists, Prod.mk.injEq]
        constructor
        · rintro ⟨b, a, found, shape, rfl⟩
          cases shape
          obtain ⟨joined, absent⟩ := inductionHypothesis.1 found
          exact ⟨by simp [joined], by simp [Ne.symm same, absent]⟩
        · rintro ⟨joined, absent⟩
          simp only [List.cons_append, List.cons.injEq] at joined
          simp only [List.mem_cons, not_or] at absent
          exact ⟨ds, after, inductionHypothesis.2 ⟨joined.2, absent.2⟩, by simp [joined.1]⟩

/-- What stands in front of the first separator and what stands behind it are determined by the
text. -/
theorem append_separator_inj {separator : α} {before before' after after' : List α}
    (same : before ++ separator :: after = before' ++ separator :: after')
    (absent : separator ∉ before) (absent' : separator ∉ before') :
    before = before' ∧ after = after' := by
  have first : cut? separator (before ++ separator :: after) = some (before, after) :=
    cut?_eq_some_iff.2 ⟨rfl, absent⟩
  have second : cut? separator (before ++ separator :: after) = some (before', after') :=
    cut?_eq_some_iff.2 ⟨same, absent'⟩
  rw [first] at second
  simpa using second

/-- There is no cut exactly when the separator does not occur. -/
theorem cut?_eq_none_iff {separator : α} {text : List α} :
    cut? separator text = none ↔ separator ∉ text := by
  induction text with
  | nil => simp [cut?]
  | cons c rest inductionHypothesis =>
    by_cases same : c = separator
    · simp [cut?, same]
    · simp [cut?, same, inductionHypothesis, Ne.symm same]

end SchemaTypes.Text
