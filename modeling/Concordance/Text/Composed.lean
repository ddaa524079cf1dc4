import Concordance.Text.CodePoints
import Concordance.Text.Table.Composition

/-!
Contract: the composed form of a text.

Characters that are composed of others are taken apart, marks are put into the order of
their classes, and what can be composed is composed again, so that texts that look the
same are the same.

Owns: `composed`.

Does not own: the tables of compositions and classes.
-/

set_option autoImplicit false

namespace Concordance.Text

namespace Composed

/-- The composed code points with the two that they are composed of. -/
def pairs : List (Nat × Nat × Nat) :=
  Table.compositions.flatMap fun entry =>
    ((CodePoints.sequences entry.2).zipIdx entry.1).filterMap fun (parts, code) =>
      match parts with
      | [first, second] => some (code, first, second)
      | _ => none

/-- The classes of marks with their code points. -/
def classes : List (Nat × List (Nat × Nat)) :=
  Table.markClasses.map fun entry => (entry.1, CodePoints.ranges entry.2)

/-- The class of a mark, and zero for all other characters. -/
def classOf (code : Nat) : Nat :=
  let found := classes.find? fun entry =>
    entry.2.any fun range => range.1 ≤ code && code ≤ range.2
  (found.map Prod.fst).getD 0

/-- Number of first parts of Hangul syllables. -/
def firsts : Nat := 19

/-- Number of middle parts of Hangul syllables. -/
def middles : Nat := 21

/-- Number of last parts of Hangul syllables, with the lack of one. -/
def lasts : Nat := 28

/-- The code points that a code point is composed of, in fewer than `fuel` steps. -/
def taken : Nat → Nat → List Nat
  | 0, code => [code]
  | fuel + 1, code =>
      if 0xAC00 ≤ code && code < 0xAC00 + firsts * middles * lasts then
        let number := code - 0xAC00
        let last := number % lasts
        [0x1100 + number / (middles * lasts), 0x1161 + number % (middles * lasts) / lasts]
          ++ (if last = 0 then [] else [0x11A7 + last])
      else
        match pairs.lookup code with
        | some (first, second) => taken fuel first ++ [second]
        | none => [code]

/-- The code point that two are composed to. -/
def composition? (first second : Nat) : Option Nat :=
  if 0x1100 ≤ first && first < 0x1100 + firsts
      && 0x1161 ≤ second && second < 0x1161 + middles then
    some (0xAC00 + ((first - 0x1100) * middles + (second - 0x1161)) * lasts)
  else if 0xAC00 ≤ first && first < 0xAC00 + firsts * middles * lasts
      && (first - 0xAC00) % lasts = 0 && 0x11A7 < second && second < 0x11A7 + lasts then
    some (first + (second - 0x11A7))
  else
    (pairs.find? fun entry => entry.2 = (first, second)).map Prod.fst

/-- Code points with their classes, where marks that follow each other stand in the order
of their classes. -/
def ordered : List (Nat × Nat) → List (Nat × Nat)
  | [] => []
  | entry :: rest =>
      let others := ordered rest
      if entry.1 = 0 then entry :: others
      else
        let smaller (other : Nat × Nat) : Bool := other.1 ≠ 0 && other.1 < entry.1
        others.takeWhile smaller ++ entry :: others.dropWhile smaller

/-- Composes code points with their classes. Behind the code point `base` stand `kept`
ones, the latest first, that could not be composed with it. -/
def join (base : Nat) (kept : List (Nat × Nat)) : List (Nat × Nat) → List Nat
  | [] => base :: (kept.map Prod.snd).reverse
  | (kind, code) :: rest =>
      let isBlocked : Bool := kept.head?.any fun entry => kind ≤ entry.1
      match if isBlocked then none else composition? base code with
      | some whole => join whole kept rest
      | none =>
          if kind = 0 then base :: (kept.map Prod.snd).reverse ++ join code [] rest
          else join base ((kind, code) :: kept) rest

/-- Composes code points with their classes from the first one on that is no mark. -/
def compose : List (Nat × Nat) → List Nat
  | [] => []
  | (kind, code) :: rest => if kind = 0 then join code [] rest else code :: compose rest

end Composed

/-- The composed form of a text. -/
def composed (text : Text) : Text :=
  let parts := text.flatMap fun character => Composed.taken 4 character.toNat
  let ordered := Composed.ordered (parts.map fun code => (Composed.classOf code, code))
  (Composed.compose ordered).map Char.ofNat

end Concordance.Text
