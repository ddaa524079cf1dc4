import Concordance.Text.CharClass
import Concordance.Text.Table.Lowering

/-!
Contract: the full lower-case mapping of a text.

Owns:
- the one-to-one mapping read off the table;
- the dotted capital I, which becomes two characters;
- the capital sigma, whose form depends on the cased characters around it.

Does not own: case folding for comparisons, which markup reading does itself.
-/

set_option autoImplicit false

namespace Concordance.Text

/-- Whether a run of the mapping contains the code point. -/
def Table.LoweringRun.contains (run : Table.LoweringRun) (code : Nat) : Bool :=
  run.first ≤ code && code ≤ run.last && (code - run.first) % run.step == 0

/-- The single lower-case form of a character, or the character itself. -/
def lowerChar (character : Char) : Char :=
  match Table.lowering.find? (·.contains character.toNat) with
  | some run => Char.ofNat ((character.toNat : Int) + run.shift).toNat
  | none => character

/-- Whether the first character that case rules do not look through is cased. -/
def meetsCased (context : Text) : Bool :=
  match context.dropWhile isCaseIgnorable with
  | [] => false
  | character :: _ => isCased character

/-- A capital sigma is final when a cased character precedes it and none
follows it, both up to case-ignorable characters. `before` is reversed. -/
def lowerSigma (before after : Text) : Char :=
  if meetsCased before && !meetsCased after then 'ς' else 'σ'

/-- Lower-case form of a text that follows the characters `before`, which are
listed last first. -/
def lowerAfter (before : Text) : Text → Text
  | [] => []
  | character :: rest =>
      (if character = 'Σ' then [lowerSigma before rest]
       else if character = 'İ' then ['i', '\u0307']
       else [lowerChar character]) ++ lowerAfter (character :: before) rest

/-- Words are compared by their lower-case form. -/
def lowerCase (text : Text) : Text := lowerAfter [] text

end Concordance.Text
