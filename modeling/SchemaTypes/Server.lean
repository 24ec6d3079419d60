import SchemaTypes.Text.Numeral
import SchemaTypes.Text.Quoted

/-!
# Listening address

The service listens on every interface. The port comes from a setting that may be missing; a
setting that is no whole number stops the launch.
-/

namespace SchemaTypes

open SchemaTypes.Text

/-- Where the service listens. -/
structure Address where
  host : String
  port : Int
  deriving DecidableEq, Repr

namespace Address

/-- The interface that stands for all of them. -/
def everyHost : String := "0.0.0.0"

/-- The port setting where none is given. -/
def defaultPort : String := "8000"

/-- Why a text is not read as a whole number, as told to the user. -/
def portMessage (setting : String) : NumeralError → String
  | .malformed =>
    "invalid literal for int() with base 10: " ++ String.ofList ((quoted setting).toList.take 200)
  | .tooLong digits =>
    "Exceeds the limit (" ++ toString maxNumeralDigits
      ++ " digits) for integer string conversion: value has " ++ toString digits
      ++ " digits; use sys.set_int_max_str_digits() to increase the limit"

/-- The address for a port setting, or the message that refuses it. -/
def ofSetting (setting : Option String) : Except String Address :=
  let text := setting.getD defaultPort
  match readInt text with
  | .ok port => .ok ⟨everyHost, port⟩
  | .error reason => .error (portMessage text reason)

end Address

end SchemaTypes
