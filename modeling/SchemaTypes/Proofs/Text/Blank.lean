import SchemaTypes.Text.Blank

/-!
# Blanks around a text

Removing blanks from both ends of a text gives back what stood there before the blanks were added,
provided that it does not start or end with a blank itself.
-/

namespace SchemaTypes.Text

/-- A text that is nothing but blanks. -/
def Blanks (text : List Char) : Prop := ∀ c ∈ text, isBlank c = true

instance (text : List Char) : Decidable (Blanks text) := decidable_of_iff _ List.all_eq_true

/-- A text that does not start with a blank. -/
def StartsPlain (text : List Char) : Prop := ∀ c ∈ text.head?, isBlank c = false

/-- A text that does not end with a blank. -/
def EndsPlain (text : List Char) : Prop := ∀ c ∈ text.getLast?, isBlank c = false

instance (text : List Char) : Decidable (StartsPlain text) :=
  decidable_of_iff (text.head?.all (!isBlank ·) = true) (by simp [StartsPlain, Option.all_eq_true])

instance (text : List Char) : Decidable (EndsPlain text) :=
  decidable_of_iff (text.getLast?.all (!isBlank ·) = true) (by simp [EndsPlain, Option.all_eq_true])

/-- A character that is no blank does not occur in a text of blanks. -/
theorem Blanks.notMem {text : List Char} (blanks : Blanks text) {c : Char}
    (plain : isBlank c = false) : c ∉ text := by
  intro member
  rw [blanks c member] at plain
  cases plain

/-- No blanks are dropped from what starts without. -/
theorem StartsPlain.dropWhile_eq {text : List Char} (starts : StartsPlain text) :
    text.dropWhile isBlank = text := by
  cases text with
  | nil => rfl
  | cons c rest => exact List.dropWhile_cons_of_neg (by simp [starts c rfl])

/-- Blanks in front are dropped. -/
theorem Blanks.dropWhile_append {blanks : List Char} (all : Blanks blanks) (text : List Char) :
    (blanks ++ text).dropWhile isBlank = text.dropWhile isBlank :=
  List.dropWhile_append_of_pos all

/-- Blanks around a text are removed, and nothing else. -/
theorem strip_append_append {before text after : List Char} (blanksBefore : Blanks before)
    (blanksAfter : Blanks after) (starts : StartsPlain text) (ends : EndsPlain text) :
    strip (before ++ text ++ after) = text := by
  have blanksReversed : Blanks after.reverse := fun c member =>
    blanksAfter c (List.mem_reverse.1 member)
  cases text with
  | nil =>
    have nothing : after.dropWhile isBlank = [] := by
      rw [← List.append_nil after, blanksAfter.dropWhile_append, List.dropWhile_nil]
    rw [strip, trimEnds, List.append_nil, blanksBefore.dropWhile_append, nothing]
    rfl
  | cons c rest =>
    have front : (before ++ c :: rest ++ after).dropWhile isBlank = c :: rest ++ after := by
      rw [List.append_assoc, blanksBefore.dropWhile_append]
      exact StartsPlain.dropWhile_eq starts
    have startsReversed : StartsPlain (c :: rest).reverse := by
      rw [StartsPlain, List.head?_reverse]
      exact ends
    rw [strip, trimEnds, front, List.reverse_append, blanksReversed.dropWhile_append,
      startsReversed.dropWhile_eq, List.reverse_reverse]

end SchemaTypes.Text
