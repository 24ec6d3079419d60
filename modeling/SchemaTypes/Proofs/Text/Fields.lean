import SchemaTypes.Text.Search
import SchemaTypes.Text.Split

/-!
# Words in front of separators

A text is either free of a separator or starts with a field and a separator. So a word without the
separator stands in front of one exactly where a field that is not the last ends with the word, and
how a text ends is a matter of what stands behind its first separator.
-/

namespace SchemaTypes.Text

section Fields

variable {α : Type} [DecidableEq α] {separator : α}

/-- Induction over the fields of a text: what holds of texts without the separator, and of a text
behind a field and a separator if it holds of the text alone, holds of every text. -/
theorem fields_induction (separator : α) {motive : List α → Prop}
    (single : ∀ text, separator ∉ text → motive text)
    (field : ∀ first rest, separator ∉ first → motive rest → motive (first ++ separator :: rest))
    (text : List α) : motive text := by
  cases found : cut? separator text with
  | none => exact single text (cut?_eq_none_iff.1 found)
  | some parts =>
    obtain ⟨first, rest⟩ := parts
    obtain ⟨joined, absent⟩ := cut?_eq_some_iff.1 found
    have shorter : rest.length < text.length := by
      simp only [joined, List.length_append, List.length_cons]
      omega
    rw [joined]
    exact field first rest absent (fields_induction separator single field rest)
  termination_by text.length

/-- A field in front of a separator is the first of the fields. -/
theorem splitFields_field {first : List α} (rest : List α) (absent : separator ∉ first) :
    splitFields separator (first ++ separator :: rest) = first :: splitFields separator rest := by
  rw [splitFields_append, splitFields_of_not_mem absent, List.singleton_append]

/-- Splitting undoes joining. -/
theorem splitFields_intercalate {fields : List (List α)} (nonempty : fields ≠ [])
    (absent : ∀ field ∈ fields, separator ∉ field) :
    splitFields separator ([separator].intercalate fields) = fields := by
  induction fields with
  | nil => exact absurd rfl nonempty
  | cons first rest inductionHypothesis =>
    have own : separator ∉ first := absent first List.mem_cons_self
    cases rest with
    | nil => simpa using splitFields_of_not_mem own
    | cons second others =>
      have later := inductionHypothesis (List.cons_ne_nil second others) fun field member =>
        absent field (List.mem_cons_of_mem first member)
      rw [List.intercalate_cons_cons, List.append_assoc, List.singleton_append,
        splitFields_field _ own, later]

/-- Behind every field but the last there is a separator. -/
theorem exists_of_mem_dropLast_splitFields {field text : List α}
    (member : field ∈ (splitFields separator text).dropLast) :
    ∃ before after, text = before ++ field ++ separator :: after := by
  induction text using fields_induction separator with
  | single text absent => simp [splitFields_of_not_mem absent] at member
  | field first rest absent inductionHypothesis =>
    rw [splitFields_field rest absent,
      List.dropLast_cons_of_ne_nil (splitFields_ne_nil separator rest)] at member
    rcases List.mem_cons.1 member with rfl | later
    · exact ⟨[], rest, rfl⟩
    · obtain ⟨before, after, rfl⟩ := inductionHypothesis later
      exact ⟨first ++ separator :: before, after, by simp⟩

/-- Some field of a text ends with the word that the text ends with. -/
theorem exists_mem_splitFields_suffix {word : List α} (before : List α) (absent : separator ∉ word) :
    ∃ field ∈ splitFields separator (before ++ word), word <:+ field := by
  induction before using fields_induction separator with
  | single before free =>
    have whole : separator ∉ before ++ word := by simp [free, absent]
    refine ⟨before ++ word, ?_, List.suffix_append before word⟩
    rw [splitFields_of_not_mem whole]
    exact List.mem_singleton.2 rfl
  | field first rest free inductionHypothesis =>
    obtain ⟨field, member, ends⟩ := inductionHypothesis
    refine ⟨field, ?_, ends⟩
    rw [List.append_assoc, List.cons_append, splitFields_field _ free]
    exact List.mem_cons_of_mem first member

/-- A word without the separator stands in front of one exactly if a field that is not the last ends
with the word. -/
theorem exists_eq_append_separator_iff {word text : List α} (absent : separator ∉ word) :
    (∃ before after, text = before ++ (word ++ [separator]) ++ after) ↔
      ∃ field ∈ (splitFields separator text).dropLast, word <:+ field := by
  constructor
  · rintro ⟨before, after, rfl⟩
    obtain ⟨field, member, ends⟩ := exists_mem_splitFields_suffix before absent
    have joined : before ++ (word ++ [separator]) ++ after =
        before ++ word ++ separator :: after := by simp
    refine ⟨field, ?_, ends⟩
    rw [joined, splitFields_append, List.dropLast_append_of_ne_nil (splitFields_ne_nil _ after)]
    exact List.mem_append_left _ member
  · rintro ⟨field, member, start, rfl⟩
    obtain ⟨before, after, rfl⟩ := exists_of_mem_dropLast_splitFields member
    exact ⟨before ++ start, after, by simp⟩

omit [DecidableEq α] in
/-- How a text ends is a matter of what stands behind a separator, for words without it. -/
theorem suffix_append_separator_iff {word before after : List α} (absent : separator ∉ word) :
    word <:+ before ++ separator :: after ↔ word <:+ after := by
  constructor
  · intro ends
    rcases List.suffix_or_suffix_of_suffix ends (List.suffix_append before (separator :: after))
      with inside | beyond
    · rcases List.suffix_cons_iff.1 inside with rfl | inside
      · exact absurd List.mem_cons_self absent
      · exact inside
    · exact absurd (beyond.subset List.mem_cons_self) absent
  · intro ends
    exact ends.trans ((List.suffix_cons separator after).trans (List.suffix_append before _))

end Fields

end SchemaTypes.Text
