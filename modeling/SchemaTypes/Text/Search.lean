/-!
# Words inside text

`occursIn` looks for a word anywhere in a text and `endsWith` at its end. Texts are compared as
they stand here; `foldLetter` brings the letters that count as one to a common form first.
-/

namespace SchemaTypes.Text

/-- Whether the word occurs somewhere in the text. -/
def occursIn (word : List Char) : List Char → Bool
  | [] => word.isEmpty
  | c :: rest => word.isPrefixOf (c :: rest) || occursIn word rest

/-- Whether the text ends with the word. -/
def endsWith (word text : List Char) : Bool := word.isSuffixOf text

/-- The small ASCII letter a character counts as when case is ignored: capitals, the dotted and
the dotless `i`, the long `s` and the kelvin sign have one; every other character is itself. -/
def foldLetter (c : Char) : Char :=
  if c = 'İ' || c = 'ı' then 'i'
  else if c = 'ſ' then 's'
  else if c = '\u212A' then 'k'
  else c.toLower

/-- A word occurs in a text exactly when the text is the word with something around it. -/
theorem occursIn_iff {word text : List Char} :
    occursIn word text = true ↔ ∃ before after, text = before ++ word ++ after := by
  induction text with
  | nil =>
    simp only [occursIn, List.isEmpty_iff]
    constructor
    · rintro rfl
      exact ⟨[], [], rfl⟩
    · rintro ⟨before, after, joined⟩
      simp_all
  | cons c rest inductionHypothesis =>
    simp only [occursIn, Bool.or_eq_true, inductionHypothesis, List.isPrefixOf_iff_prefix]
    constructor
    · rintro (⟨after, joined⟩ | ⟨before, after, rfl⟩)
      · exact ⟨[], after, by simpa using joined.symm⟩
      · exact ⟨c :: before, after, by simp⟩
    · rintro ⟨before, after, joined⟩
      cases before with
      | nil => exact Or.inl ⟨after, by simpa using joined.symm⟩
      | cons d ds =>
        simp only [List.cons_append, List.cons.injEq] at joined
        exact Or.inr ⟨ds, after, by simpa using joined.2⟩

end SchemaTypes.Text
