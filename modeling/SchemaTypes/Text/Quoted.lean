import SchemaTypes.Text.Hexadecimal
import SchemaTypes.Text.Printable

/-!
# Quoted text

Text shown inside messages stands between quotes. The single quote is preferred; text that holds a
single quote and no double quote stands between double quotes, so that most texts need no escape
for their own quotes. Unprintable characters are written by their code point in hexadecimal.
-/

namespace SchemaTypes.Text

/-- A code point as an escape of two, four or eight hexadecimal digits, whichever is enough. -/
def codePointEscape (code : Nat) : List Char :=
  if code < 0x100 then '\\' :: 'x' :: hexDigits 2 code
  else if code < 0x10000 then '\\' :: 'u' :: hexDigits 4 code
  else '\\' :: 'U' :: hexDigits 8 code

/-- One character as it stands between quotes of the given kind. -/
def quotedChar (quote c : Char) : List Char :=
  if c = quote || c = '\\' then ['\\', c]
  else if c = '\n' then ['\\', 'n']
  else if c = '\r' then ['\\', 'r']
  else if c = '\t' then ['\\', 't']
  else if isPrintable c then [c]
  else codePointEscape c.toNat

/-- The quote a text stands between. -/
def quoteFor (text : List Char) : Char :=
  if text.contains '\'' && !text.contains '"' then '"' else '\''

/-- The text between quotes, with escapes for what cannot stand there as it is. -/
def quoted (text : String) : String :=
  let chars := text.toList
  let quote := quoteFor chars
  String.ofList (quote :: chars.flatMap (quotedChar quote) ++ [quote])

end SchemaTypes.Text
