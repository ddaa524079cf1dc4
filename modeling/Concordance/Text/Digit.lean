import Concordance.Text.Basic

/-!
Contract: digits, and the numbers that they denote.

Owns:
- the values of hexadecimal digits, as characters and as bytes;
- the number that digits denote in a number system, and the character with a number.

Does not own: writing numerals (`Concordance.Text.Basic`).
-/

set_option autoImplicit false

namespace Concordance.Text

/-- The value of a hexadecimal digit of either case. -/
def hexDigit? (character : Char) : Option Nat :=
  if character.isDigit then some (character.toNat - 0x30)
  else if 'a' ≤ character && character ≤ 'f' then some (character.toNat - 0x61 + 10)
  else if 'A' ≤ character && character ≤ 'F' then some (character.toNat - 0x41 + 10)
  else none

/-- The value of a byte that is a hexadecimal digit of either case. -/
def hexDigitOfByte? (byte : UInt8) : Option Nat := hexDigit? (Char.ofNat byte.toNat)

/-- Whether a character is a hexadecimal digit. -/
def isHexDigit (character : Char) : Bool := (hexDigit? character).isSome

/-- The number that digits denote in a number system of at most sixteen digits. -/
def numberOf (base : Nat) (digits : Text) : Nat :=
  digits.foldl (fun number digit => number * base + (hexDigit? digit).getD 0) 0

/-- The character with a number, if there is one. -/
def ofNumber? (number : Nat) : Option Char :=
  if number.isValidChar then some (Char.ofNat number) else none

end Concordance.Text
