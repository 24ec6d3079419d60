import SchemaTypes.Json
import SchemaTypes.Text.Loose

/-!
# Structured values as they are written

In writing, every text of a structured value may hold halves of pairs, also the keys of objects.
Without any the value is a structured one.
-/

namespace SchemaTypes.Json

open SchemaTypes.Text (Loose)

/-- A structured value as it is written. -/
inductive Written where
  | null
  | bool (value : Bool)
  | number (spelling : String)
  | text (text : Loose)
  | array (items : List Written)
  | object (members : List (Loose × Written))
  deriving Inhabited, Repr

namespace Written

/-- The value of a key; of several members with one key the last counts. -/
def member? (members : List (Loose × Written)) (key : String) : Option Written :=
  members.reverse.lookup (.ofString key)

mutual

/-- The structured value, if no text in it holds a half. -/
def strict? : Written → Option Json
  | null => some .null
  | bool value => some (.bool value)
  | number spelling => some (.number spelling)
  | text loose => loose.strict.toOption.map .string
  | array items => (strictItems? items).map .array
  | object members => (strictMembers? members).map .object

/-- The structured values, if no text in them holds a half. -/
def strictItems? : List Written → Option (List Json)
  | [] => some []
  | item :: rest => do return (← item.strict?) :: (← strictItems? rest)

/-- The members of an object, if no text in them holds a half. -/
def strictMembers? : List (Loose × Written) → Option (List (String × Json))
  | [] => some []
  | (key, value) :: rest => do
    return (← key.strict.toOption, ← value.strict?) :: (← strictMembers? rest)

end

end Written

end SchemaTypes.Json
