import SchemaTypes.Proofs.Text.Fields
import SchemaTypes.TypeName

/-!
# Spelling and meaning of type names

What a base is spelled like is tested on its letters, and what it stands for is looked up by its
local part. A builtin type that is spelled like a whole number type stands for a number. A base that
is spelled like a text type stands for text if its local part is the name of a builtin type, unless
that is one for numbers, truth values or points in time. The name of any other type stands for
itself, whatever it is spelled like.
-/

namespace SchemaTypes.TypeName

open SchemaTypes.Text

/-- The names of the builtin types that do not stand for text. -/
def otherBuiltinNames : List String := numberTypes ++ "boolean" :: dateTypes

/-- The names of the builtin types. -/
def builtinNames : List String := textTypes ++ otherBuiltinNames

/-! ## Local parts -/

/-- The local part is the whole name, or it stands behind the first colon. -/
theorem localPart_cases (name : String) :
    localPart name = name ∨
      ∃ before, name.toList = before ++ ':' :: (localPart name).toList := by
  rw [localPart]
  cases found : cut? ':' name.toList with
  | none => exact Or.inl rfl
  | some parts =>
    obtain ⟨before, after⟩ := parts
    exact Or.inr ⟨before, by simp [(cut?_eq_some_iff.1 found).1]⟩

/-- No name is looked up as the empty one. -/
theorem lookupName_ne_empty (name : String) : lookupName name ≠ "" := by
  rw [lookupName]
  split
  · decide
  · assumption

/-- Letters end like a whole number type: with one of the endings, apart from one final line feed.
-/
def EndsLikeInteger (letters : List Char) : Prop :=
  ∃ word ∈ integerEndings,
    word.toList <:+ letters ∨ (letters.getLast? = some '\n' ∧ word.toList <:+ letters.dropLast)

/-- A base is spelled like a whole number type if its letters, in one case, end like one. -/
theorem isIntegerLike_iff (base : String) :
    isIntegerLike (some base) = true ↔ EndsLikeInteger (base.toList.map foldLetter) := by
  simp only [isIntegerLike, Option.getD_some, EndsLikeInteger, endsWith, Bool.or_eq_true,
    Bool.and_eq_true, List.any_eq_true, beq_iff_eq, List.isSuffixOf_iff_suffix]
  grind

/-- Without a base there is nothing that could be spelled like a whole number type. -/
theorem exists_of_isIntegerLike {base : Option String} (spelled : isIntegerLike base = true) :
    ∃ name, base = some name := by
  cases base with
  | none => exact absurd spelled (by decide)
  | some name => exact ⟨name, rfl⟩

/-- Without a base there is nothing that could be spelled like a text type. -/
theorem exists_of_isTextLike {base : Option String} (spelled : isTextLike base = true) :
    ∃ name, base = some name := by
  cases base with
  | none => exact absurd spelled (by decide)
  | some name => exact ⟨name, rfl⟩

/-- Whether letters end like a whole number type is decided behind a colon. -/
theorem endsLikeInteger_append_colon (before after : List Char) :
    EndsLikeInteger (before ++ ':' :: after) ↔ EndsLikeInteger after := by
  have noColon : ∀ word ∈ integerEndings, ':' ∉ word.toList := by decide
  refine exists_congr fun word => and_congr_right fun listed => ?_
  rw [suffix_append_separator_iff (noColon word listed)]
  refine or_congr_right ?_
  cases after with
  | nil => exact iff_of_false (by simp) (by simp)
  | cons letter rest =>
    have last : (before ++ ':' :: letter :: rest).getLast? = (letter :: rest).getLast? := by
      rw [List.getLast?_append, List.getLast?_cons_cons, List.getLast?_cons, Option.some_or]
    have others : (before ++ ':' :: letter :: rest).dropLast =
        before ++ ':' :: (letter :: rest).dropLast := by
      rw [List.dropLast_append_of_ne_nil (by simp), List.dropLast_cons_of_ne_nil (by simp)]
    rw [last, others, suffix_append_separator_iff (noColon word listed)]

/-- A base is spelled like a whole number type exactly if its local part is. -/
theorem isIntegerLike_localPart (base : String) :
    isIntegerLike (some (localPart base)) = isIntegerLike (some base) := by
  rcases localPart_cases base with whole | ⟨before, joined⟩
  · rw [whole]
  · have colon : foldLetter ':' = ':' := by decide
    rw [Bool.eq_iff_iff, isIntegerLike_iff, isIntegerLike_iff, joined, List.map_append,
      List.map_cons, colon, endsLikeInteger_append_colon]

/-- A base that is spelled like a whole number type is looked up by its local part. -/
theorem lookupName_of_isIntegerLike {base : String} (spelled : isIntegerLike (some base) = true) :
    lookupName base = localPart base := by
  rw [lookupName, if_neg]
  intro empty
  rw [← isIntegerLike_localPart, empty] at spelled
  exact absurd spelled (by decide)

/-! ## Builtin types -/

/-- A name that is not the one of a builtin type stands for itself. -/
theorem builtinTarget_of_notMem {name : String} (userDefined : name ∉ builtinNames) :
    builtinTarget name = name := by
  simp only [builtinNames, otherBuiltinNames, List.mem_append, List.mem_cons,
    not_or] at userDefined
  obtain ⟨notText, notNumber, notBoolean, notDate⟩ := userDefined
  simp [builtinTarget, notText, notNumber, notBoolean, notDate]

/-- A name that is spelled like a whole number type stands for a number if it is the name of a
builtin type, and for itself otherwise. -/
theorem builtinTarget_of_isIntegerLike {name : String} (spelled : isIntegerLike (some name) = true) :
    builtinTarget name = if name ∈ builtinNames then "number" else name := by
  have builtin : ∀ name ∈ builtinNames, isIntegerLike (some name) = true →
      builtinTarget name = "number" := by decide
  split
  · next listed => exact builtin name listed spelled
  · next userDefined => exact builtinTarget_of_notMem userDefined

/-- A name that is not one of the other builtin types stands for text if it is the name of a builtin
type, and for itself otherwise. -/
theorem builtinTarget_of_notMem_other {name : String} (noOther : name ∉ otherBuiltinNames) :
    builtinTarget name = if name ∈ builtinNames then textTarget else name := by
  split
  · next listed =>
    rw [builtinNames, List.mem_append, or_iff_left noOther] at listed
    rw [builtinTarget, if_pos (List.contains_iff_mem.2 listed)]
  · next userDefined => exact builtinTarget_of_notMem userDefined

/-- No name stands for the empty one but that itself. -/
theorem builtinTarget_ne_empty {name : String} (given : name ≠ "") : builtinTarget name ≠ "" := by
  have builtin : ∀ name ∈ builtinNames, builtinTarget name ≠ "" := by decide
  by_cases listed : name ∈ builtinNames
  · exact builtin name listed
  · rwa [builtinTarget_of_notMem listed]

/-! ## References -/

/-- Without overrides a reference stands for what its name does when it is looked up. -/
theorem target_empty {name : String} (given : name ≠ "") :
    target .empty (some name) = builtinTarget (lookupName name) := by
  rw [target, if_neg given]
  rfl

/-- Without overrides a base stands for a basic type if the name it is looked up by is that of a
builtin type, and for that name otherwise. -/
def StandsForWhereBuiltin (basic base : String) : Prop :=
  target .empty (some base) = if lookupName base ∈ builtinNames then basic else lookupName base

/-- A base that is spelled like a whole number type stands for a number if its local part is the
name of a builtin type, and for its local part otherwise. -/
theorem standsForWhereBuiltin_of_isIntegerLike {base : String} (spelled : isIntegerLike (some base) = true) :
    StandsForWhereBuiltin "number" base := by
  have given : base ≠ "" := by
    rintro rfl
    exact absurd spelled (by decide)
  have named : isIntegerLike (some (lookupName base)) = true := by
    rw [lookupName_of_isIntegerLike spelled, isIntegerLike_localPart, spelled]
  rw [StandsForWhereBuiltin, target_empty given]
  exact builtinTarget_of_isIntegerLike named

/-- A base that is not looked up by the name of one of the other builtin types stands for text if it
is looked up by the name of a builtin type, and for that name otherwise. -/
theorem standsForWhereBuiltin_of_notMem_other {base : String}
    (noOther : lookupName base ∉ otherBuiltinNames) : StandsForWhereBuiltin textTarget base := by
  by_cases given : base = ""
  · subst given
    exact (by decide : target .empty (some "") = textTarget)
  · rw [StandsForWhereBuiltin, target_empty given]
    exact builtinTarget_of_notMem_other noOther

/-- A reference stands for the empty text exactly if an override says so. -/
theorem target_eq_empty_iff {overrides : Overrides} {reference : Option String} :
    target overrides reference = "" ↔
      ∃ name, reference = some name ∧ name ≠ "" ∧
        (overrides.find? name).or (overrides.find? (lookupName name)) = some "" := by
  constructor
  · intro empty
    cases reference with
    | none => exact absurd empty (by decide : textTarget ≠ "")
    | some name =>
      by_cases given : name = ""
      · rw [target, if_pos given] at empty
        exact absurd empty (by decide)
      · refine ⟨name, rfl, given, ?_⟩
        rw [target, if_neg given] at empty
        cases found : (overrides.find? name).or (overrides.find? (lookupName name)) with
        | none =>
          rw [found] at empty
          exact absurd empty (builtinTarget_ne_empty (lookupName_ne_empty name))
        | some override =>
          rw [found, Option.getD_some] at empty
          rw [empty]
  · rintro ⟨name, rfl, given, found⟩
    rw [target, if_neg given, found, Option.getD_some]

end SchemaTypes.TypeName
