/-!
Contract: texts and byte strings, and the few operations every layer shares.

Owns:
- the types `Text` and `Bytes`;
- concatenation, decimal numerals and the width of a text in bytes.

Does not own: character classes, encodings or any parsing.
-/

set_option autoImplicit false

namespace Concordance

/-- A text is the list of its characters. -/
abbrev Text := List Char

/-- A byte string is the list of its bytes. -/
abbrev Bytes := List UInt8

namespace Text

instance : Coe String Text := ⟨String.toList⟩

/-- The parts one after another. -/
def concat (parts : List Text) : Text := parts.flatten

/-- The parts one after another with `separator` between neighbours. -/
def joined (separator : Text) (parts : List Text) : Text :=
  List.intercalate separator parts

/-- The decimal numeral of a number, without leading zeros. -/
def decimal (number : Nat) : Text := Nat.toDigits 10 number

/-- The lower-case hexadecimal numeral of a number, without leading zeros. -/
def hexadecimal (number : Nat) : Text := Nat.toDigits 16 number

/-- Number of bytes that the characters take up in UTF-8. -/
def width : Text → Nat
  | [] => 0
  | character :: rest => character.utf8Size + width rest

@[simp] theorem width_nil : width [] = 0 := rfl

@[simp] theorem width_cons (character : Char) (rest : Text) :
    width (character :: rest) = character.utf8Size + width rest := rfl

@[simp] theorem width_append (left right : Text) :
    width (left ++ right) = width left + width right := by
  induction left with
  | nil => simp
  | cons character rest inductionHypothesis => simp [inductionHypothesis, Nat.add_assoc]

theorem width_pos {text : Text} (nonempty : text ≠ []) : 0 < width text := by
  obtain ⟨character, rest, rfl⟩ := List.exists_cons_of_ne_nil nonempty
  exact Nat.lt_of_lt_of_le character.utf8Size_pos (Nat.le_add_right _ _)

/-- The text with its ASCII capitals lowered. -/
def lowerAscii (text : Text) : Text := text.map Char.toLower

end Text

end Concordance
