import Concordance.Json.Text

/-!
Contract: JSON values and their two written forms.

Owns: values made of numbers, texts, lists and objects; the compact form; the
form that puts every element on a line of its own, indented by two blanks a level.

Does not own: which values the program writes (`Concordance.Command.Report`).
-/

set_option autoImplicit false

namespace Concordance.Json

/-- A JSON value. -/
inductive Value where
  | number (number : Nat)
  | text (text : Text)
  | list (items : List Value)
  | object (members : List (Text × Value))

namespace Value

mutual

/-- The form without blanks. -/
def compact : Value → Text
  | .number value => Text.decimal value
  | .text value => string value
  | .list items => Json.list (compactItems items)
  | .object members => Json.object (compactMembers members)

/-- The elements of a list without blanks. -/
def compactItems : List Value → List Text
  | [] => []
  | item :: rest => item.compact :: compactItems rest

/-- The members of an object without blanks. -/
def compactMembers : List (Text × Value) → List (Text × Text)
  | [] => []
  | (name, value) :: rest => (name, value.compact) :: compactMembers rest

end

/-- The start of a line `level` levels deep. -/
def lineStart (level : Nat) : Text := '\n' :: List.replicate (2 * level) ' '

/-- The lines of a list or an object between its brackets, which stand on one
line if there are none. -/
def block (opening closing : Char) (level : Nat) (lines : List Text) : Text :=
  if lines.isEmpty then [opening, closing]
  else
    opening :: Text.joined [','] (lines.map (lineStart (level + 1) ++ ·))
      ++ lineStart level ++ [closing]

mutual

/-- The indented form of a value that stands `level` levels deep. -/
def indentedAt (level : Nat) : Value → Text
  | .number value => Text.decimal value
  | .text value => string value
  | .list items => block '[' ']' level (indentedItems (level + 1) items)
  | .object members =>
      block '\x7b' '\x7d' level (indentedMembers (level + 1) members)

/-- The indented elements of a list. -/
def indentedItems (level : Nat) : List Value → List Text
  | [] => []
  | item :: rest => indentedAt level item :: indentedItems level rest

/-- The indented members of an object. -/
def indentedMembers (level : Nat) : List (Text × Value) → List Text
  | [] => []
  | (name, value) :: rest =>
      (string name ++ [':', ' '] ++ indentedAt level value)
        :: indentedMembers level rest

end

/-- The indented form. -/
def indented (value : Value) : Text := indentedAt 0 value

end Value

end Concordance.Json
