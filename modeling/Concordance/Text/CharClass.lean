import Concordance.Text.CodePoints
import Concordance.Text.Table.CaseContext
import Concordance.Text.Table.Category
import Concordance.Text.Table.Edition
import Concordance.Text.Table.Escaped
import Concordance.Text.Table.Letters
import Concordance.Text.Table.WordMarks

/-!
Contract: the character classes that searching and markup reading depend on.

Owns:
- membership of a code point in ascending ranges;
- letters, blanks, word characters, cased and case-ignorable characters, and
  the characters a quoted text escapes.

Does not own: the tables, which hold the data alone.
-/

set_option autoImplicit false

namespace Concordance.Text

/-- Whether a code point lies in one of the ranges, which must ascend. -/
def inRanges (code : Nat) : List (Nat × Nat) → Bool
  | [] => false
  | (first, last) :: rest => first ≤ code && (code ≤ last || inRanges code rest)

/-- Letters are what words are made of. -/
def isLetter (character : Char) : Bool := inRanges character.toNat Table.letters

/-- Code point ranges of digits and other numerals. -/
def numerals : List (Nat × Nat) :=
  Table.categories.flatMap fun (category, lines) =>
    if category = "nd" || category = "nl" || category = "no" then CodePoints.ranges lines
    else []

/-- Digits and other numerals. -/
def isNumeric (character : Char) : Bool :=
  numerals.any fun (first, last) => first ≤ character.toNat && character.toNat ≤ last

/-- Code point ranges of the property `White_Space`. -/
def blanks : List (Nat × Nat) :=
  [ (0x9, 0xD), (0x20, 0x20), (0x85, 0x85), (0xA0, 0xA0), (0x1680, 0x1680),
    (0x2000, 0x200A), (0x2028, 0x2029), (0x202F, 0x202F), (0x205F, 0x205F),
    (0x3000, 0x3000) ]

/-- Blanks separate tokens and are trimmed from the ends of texts. -/
def isBlank (character : Char) : Bool := inRanges character.toNat blanks

/-- Code point ranges of the characters that the latest edition added. -/
def newcomers : List (Nat × Nat) := CodePoints.ranges Table.newcomers

/-- Characters that patterns do not know yet. -/
def isNewcomer (character : Char) : Bool := inRanges character.toNat newcomers

/-- Characters between which no word border lies: letters, marks, decimal digits,
connector punctuation and join controls, as far as patterns know them. -/
def isWordlike (character : Char) : Bool :=
  (isLetter character || inRanges character.toNat Table.wordMarks)
    && !isNewcomer character

/-- Characters that have a case. -/
def isCased (character : Char) : Bool := inRanges character.toNat Table.cased

/-- Characters that case rules look through. -/
def isCaseIgnorable (character : Char) : Bool :=
  inRanges character.toNat Table.caseIgnorable

/-- Characters that a quoted text spells by their code point. -/
def isEscaped (character : Char) : Bool := inRanges character.toNat Table.escaped

/-- The text without the blanks at its two ends. -/
def trimmed (text : Text) : Text :=
  ((text.dropWhile isBlank).reverse.dropWhile isBlank).reverse

end Concordance.Text
