import Concordance.Text.Basic

/-!
Contract: the written form of JSON strings, lists and objects.

Owns: string escapes, and the punctuation of lists and objects without blanks.

Does not own: reading JSON (`Concordance.Json.Reader`) or the indented form
(`Concordance.Json.Value`).
-/

set_option autoImplicit false

namespace Concordance.Json

/-- A code below sixteen as a lower-case hexadecimal digit. -/
private def hexDigit (code : Nat) : Char := Nat.digitChar code

/-- A character as it stands in a string. Only quotes, backslashes and control
characters are escaped. -/
def escapedChar (character : Char) : Text :=
  if character = '"' then ['\\', '"']
  else if character = '\\' then ['\\', '\\']
  else if character = '\x08' then ['\\', 'b']
  else if character = '\x0c' then ['\\', 'f']
  else if character = '\n' then ['\\', 'n']
  else if character = '\r' then ['\\', 'r']
  else if character = '\t' then ['\\', 't']
  else if character.toNat < 0x20 then
    ['\\', 'u', '0', '0', hexDigit (character.toNat / 16), hexDigit (character.toNat % 16)]
  else [character]

/-- A string. -/
def string (text : Text) : Text := '"' :: text.flatMap escapedChar ++ ['"']

/-- A list of written values. -/
def list (items : List Text) : Text := '[' :: Text.joined [','] items ++ [']']

/-- A name and a written value. -/
def member (name value : Text) : Text := string name ++ ':' :: value

/-- An object of names and written values. -/
def object (members : List (Text × Text)) : Text :=
  '\x7b' :: Text.joined [','] (members.map fun entry => member entry.1 entry.2)
    ++ ['\x7d']

end Concordance.Json
