import Concordance.Text.CharClass

/-!
Contract: texts quoted inside messages.

Owns: the double-quoted form, in which a quote, a backslash, the common control
characters and every character that is not shown as itself are escaped.

Does not own: JSON strings, which have other escapes.
-/

set_option autoImplicit false

namespace Concordance.Text

/-- A character as it stands between the quotes. -/
def quotedChar (character : Char) : Text :=
  if character = '\x00' then ['\\', '0']
  else if character = '\t' then ['\\', 't']
  else if character = '\r' then ['\\', 'r']
  else if character = '\n' then ['\\', 'n']
  else if character = '\\' then ['\\', '\\']
  else if character = '"' then ['\\', '"']
  else if isEscaped character then
    ['\\', 'u', '\x7b'] ++ hexadecimal character.toNat ++ ['\x7d']
  else [character]

/-- A text between double quotes. -/
def quoted (text : Text) : Text := '"' :: text.flatMap quotedChar ++ ['"']

end Concordance.Text
