import Concordance.Text.Composed
import Concordance.Text.Table.Category
import Concordance.Text.Table.HostMapping
import Concordance.Text.Table.Joining
import Concordance.Url.Direction
import Concordance.Url.Punycode

/-!
Contract: names of hosts in characters of all scripts.

Many characters stand for others in a name: capitals for small letters, wide and raised
letters for plain ones. What they stand for is composed and divided into labels, and
each label has to be one that can be written in ASCII.

Owns: `canonical?`, the form in which names are compared.

Does not own: addresses in numbers (`Concordance.Url.Address`).
-/

set_option autoImplicit false

namespace Concordance.Url.Name

open Concordance.Text (CodePoints.ranges CodePoints.shifts CodePoints.spelled?)
open Concordance.Text.Table

/-- What ASCII characters no name has. -/
def isForbidden (character : Char) : Bool :=
  character ≤ ' ' || character = '\x7f' ||
    ['#', '%', '/', ':', '<', '>', '?', '@', '[', '\\', ']', '^', '|'].contains character

/-- The code points of some categories. -/
def codePointsOf (names : List String) : List (Nat × Nat) :=
  categories.flatMap fun entry =>
    if names.contains entry.1 then CodePoints.ranges entry.2 else []

/-- Whether a code point is in one of some ranges, in any order. -/
def isIn (code : Nat) (ranges : List (Nat × Nat)) : Bool :=
  ranges.any fun range => range.1 ≤ code && code ≤ range.2

/-- The code points that are assigned to public characters. -/
def assigned : List (Nat × Nat) :=
  categories.flatMap fun entry =>
    if entry.1 = "co" then [] else CodePoints.ranges entry.2

/-- The code points of marks. -/
def marks : List (Nat × Nat) := codePointsOf ["mn", "mc", "me"]

/-- The code points that stand for nothing. -/
def ignored : List (Nat × Nat) := CodePoints.ranges hostIgnored

/-- The code points that no name has. -/
def refused : List (Nat × Nat) := CodePoints.ranges hostRefused

/-- What a code point of a long run stands for. -/
def shifted : List Text.CodePoints.Shift := CodePoints.shifts hostRuns

/-- What a character stands for in a name, if it can stand there. -/
def meaning? (character : Char) : Option Text :=
  let code := character.toNat
  if code < 0x80 then some [character.toLower]
  else if isIn code ignored then some []
  else
    match (shifted.findSome? fun shift => (shift.image? code).map fun target => [target]).or
        (CodePoints.spelled? hostSpellings code) with
    | some codes => some (codes.map Char.ofNat)
    | none => if isIn code assigned && !isIn code refused then some [character] else none

/-- Whether a character stands for itself in a name. -/
def standsForItself (character : Char) : Bool := meaning? character = some [character]

/-- Whether a character is a mark. -/
def isMark (character : Char) : Bool := isIn character.toNat marks

/-- The kinds of joining with their code points. -/
def joinings : List (String × List (Nat × Nat)) :=
  joining.map fun entry => (entry.1, CodePoints.ranges entry.2)

/-- Whether a character is of one of some kinds of joining. -/
def joins (kinds : List String) (character : Char) : Bool :=
  joinings.any fun entry => kinds.contains entry.1 && isIn character.toNat entry.2

/-- Whether a character is a sign that takes the vowel from the letter in front of it. -/
def isVirama (character : Char) : Bool := Text.Composed.classOf character.toNat = 9

/-- Whether the joiners of a label stand where they show: behind a virama, or one that
keeps letters apart between two that would be joined. `before` has the characters in
front, the latest first. -/
def hasJoinersInPlace (before : Text) : Text → Bool
  | [] => true
  | character :: rest =>
      let isBehindVirama := (before.head?.map isVirama).getD false
      let isBetween :=
        ((before.dropWhile (joins ["T"])).head?.map (joins ["L", "D"])).getD false
          && ((rest.dropWhile (joins ["T"])).head?.map (joins ["R", "D"])).getD false
      let isInPlace :=
        if character = '\u200d' then isBehindVirama
        else if character = '\u200c' then isBehindVirama || isBetween
        else true
      isInPlace && hasJoinersInPlace (character :: before) rest

/-- Whether a character is an ASCII character. -/
def isAscii (character : Char) : Bool := character.toNat < 0x80

/-- What labels begin with that are written in ASCII and stand for others. -/
def escapeMark : Text := "xn--"

/-- Numbers of characters that labels have at most that are not written in ASCII, and
those that stand for others. -/
def spelledLimit : Nat := 1000

@[inherit_doc spelledLimit]
def writtenLimit : Nat := 2000

/-- Whether a label of any script can be written. -/
def isSound (label : Text) : Bool :=
  !((label.head?.map isMark).getD false) && label.all standsForItself
    && hasJoinersInPlace [] label

/-- The label that one stands for, if it is sound. -/
def label? (written : Text) : Option Text :=
  if escapeMark.isPrefixOf written then
    if !written.all isAscii || writtenLimit < written.length then none
    else
      match Punycode.decode? (written.drop escapeMark.length) with
      | none => none
      | some label =>
          if !label.all isAscii && isSound label && Text.composed label = label
              && !escapeMark.isPrefixOf label then some label
          else none
  else if written.all isAscii then some written
  else if isSound written && written.length ≤ spelledLimit then some written
  else none

/-- The form of a name in which it is compared. A label that can be written in ASCII only
by standing for others is left as it is. -/
def canonical? (name : Text) : Option Text :=
  match name.mapM meaning? with
  | none => none
  | some parts =>
      let plain := Text.composed parts.flatten
      match (plain.splitOn '.').mapM label? with
      | none => none
      | some labels =>
          if labels.any fun label => label.any isForbidden then none
          else if labels.any Direction.matters && !labels.all Direction.isOrderly then none
          else some (Text.joined ['.'] labels)

end Concordance.Url.Name
