/-!
# Structured values

Values made of objects, lists, texts, numbers, truth values and nothing. Objects keep their keys in
the order they were written. A number is kept by its spelling.
-/

namespace SchemaTypes

/-- A structured value. -/
inductive Json where
  | null
  | bool (value : Bool)
  | number (spelling : String)
  | string (text : String)
  | array (items : List Json)
  | object (members : List (String × Json))
  deriving Inhabited, Repr

namespace Json

/-- A whole number. -/
def ofInt (value : Int) : Json := .number (toString value)

end Json

end SchemaTypes
