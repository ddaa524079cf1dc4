import Concordance.Text.CodePoints
import Concordance.Text.Table.Direction

/-!
Contract: labels that are written from right to left.

Where a name has a letter that is written from right to left, or an Arabic numeral, each
of its labels has to keep to one direction, so that it looks the same in any
surroundings.

Owns: `isOrderly`.

Does not own: the other rules about labels (`Concordance.Url.Name`).
-/

set_option autoImplicit false

namespace Concordance.Url.Direction

open Concordance.Text (CodePoints.ranges)

/-- The classes of direction with their code points. -/
def classes : List (String × List (Nat × Nat)) :=
  Text.Table.directions.map fun entry => (entry.1, CodePoints.ranges entry.2)

/-- The class of a character, which is the one from left to right unless it is
listed. -/
def classOf (character : Char) : String :=
  let found := classes.find? fun entry =>
    entry.2.any fun range => range.1 ≤ character.toNat && character.toNat ≤ range.2
  (found.map Prod.fst).getD "L"

/-- Classes of letters that are written from right to left. -/
def rightToLeft : List String := ["R", "AL"]

/-- Whether a label makes its name one in which directions matter. -/
def matters (label : Text) : Bool :=
  label.any fun character => ("AN" :: rightToLeft).contains (classOf character)

/-- Whether a label keeps to one direction: it begins with a letter, has only characters
that go with the direction of that, ends with a letter or number up to marks, and does
not mix two kinds of numerals. -/
def isOrderly (label : Text) : Bool :=
  let kinds := label.map classOf
  let neutral : List String := ["EN", "ES", "CS", "ET", "ON", "BN", "NSM"]
  let last := (kinds.reverse.dropWhile (· = "NSM")).headD ""
  match kinds.head? with
  | none => true
  | some first =>
      if first = "L" then
        kinds.all (("L" :: neutral).contains ·) && ["L", "EN"].contains last
      else if rightToLeft.contains first then
        kinds.all (("AN" :: rightToLeft ++ neutral).contains ·)
          && (["EN", "AN"] ++ rightToLeft).contains last
          && !(kinds.contains "EN" && kinds.contains "AN")
      else false

end Concordance.Url.Direction
