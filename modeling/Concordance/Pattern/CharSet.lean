import Concordance.Pattern.Basic
import Concordance.Text.CharClass
import Concordance.Text.Table.Folding

/-!
Contract: sets of characters.

Owns:
- sets as ranges of code points, ascending with gaps between them;
- union, intersection, difference and complement;
- the sets that have all letters in both cases.

Does not own: the sets that have names (`Concordance.Pattern.Property`).
-/

set_option autoImplicit false

namespace Concordance.Pattern

open Concordance.Text (CodePoints.Shift CodePoints.shifts inRanges)

/-- A set of characters, as ranges of code points. -/
structure CharSet where
  ranges : List (Nat × Nat)
deriving DecidableEq, Repr

namespace CharSet

/-- Whether a set has a code point. -/
def has (set : CharSet) (code : Nat) : Bool := inRanges code set.ranges

/-- Whether a set has a character. -/
def contains (set : CharSet) (character : Char) : Bool := set.has character.toNat

/-- No characters. -/
def none : CharSet := ⟨[]⟩

/-- The range in front of others, which begin no earlier. Ranges that touch become one. -/
def joinRange (range : Nat × Nat) : List (Nat × Nat) → List (Nat × Nat)
  | [] => [range]
  | next :: rest =>
      if next.1 ≤ range.2 + 1 then joinRange (range.1, max range.2 next.2) rest
      else range :: next :: rest

/-- The set of ranges in any order. -/
def ofRanges (ranges : List (Nat × Nat)) : CharSet :=
  let ordered :=
    (ranges.filter fun range => range.1 ≤ range.2).mergeSort fun left right =>
      left.1 ≤ right.1
  ⟨ordered.foldr joinRange []⟩

/-- The set of one code point. -/
def single (code : Nat) : CharSet := ⟨[(code, code)]⟩

/-- The characters of two sets. -/
def union (left right : CharSet) : CharSet := ofRanges (left.ranges ++ right.ranges)

/-- The ranges between ascending ones, from `first` up. -/
def gaps (first : Nat) : List (Nat × Nat) → List (Nat × Nat)
  | [] => [(first, 0x10FFFF)]
  | range :: rest => (first, range.1 - 1) :: gaps (range.2 + 1) rest

/-- The code points that are no characters. -/
def surrogates : List (Nat × Nat) := [(0xD800, 0xDFFF)]

/-- The ranges between ascending ones, without those that have nothing in them. -/
def complementOf (ranges : List (Nat × Nat)) : List (Nat × Nat) :=
  match ranges with
  | (0, last) :: rest => (gaps (last + 1) rest).filter fun range => range.1 ≤ range.2
  | _ => (gaps 0 ranges).filter fun range => range.1 ≤ range.2

/-- All other characters. -/
def complement (set : CharSet) : CharSet :=
  ⟨complementOf (ofRanges (set.ranges ++ surrogates)).ranges⟩

/-- The characters that two sets share. -/
def intersection (left right : CharSet) : CharSet :=
  (left.complement.union right.complement).complement

/-- The characters of the first set that the second one has not. -/
def difference (left right : CharSet) : CharSet := left.intersection right.complement

/-- The characters that one of two sets has and the other one has not. -/
def symmetricDifference (left right : CharSet) : CharSet :=
  (left.union right).difference (left.intersection right)

/-- Two sets as they are combined by a sign. -/
def combine (kind : Operation) (left right : CharSet) : CharSet :=
  match kind with
  | .intersection => left.intersection right
  | .difference => left.difference right
  | .symmetricDifference => left.symmetricDifference right

/-- Whether a set has ASCII characters only. -/
def isAscii (set : CharSet) : Bool := set.ranges.all fun range => range.2 < 0x80

/-- Characters that are the same letter but for their case, with the one that stands
for the letter. -/
def sameLetter : List (Nat × Nat) :=
  (CodePoints.shifts Text.Table.folding).flatMap fun shift =>
    shift.run.members.filterMap fun code =>
      if inRanges code Text.newcomers then Option.none
      else (shift.image? code).map fun target => (code, target)

/-- A set with each of its letters in every case. -/
def inBothCases (set : CharSet) : CharSet :=
  let standing := (sameLetter.filter fun pair => set.has pair.1 || set.has pair.2).map
    Prod.snd
  let letters := ofRanges (standing.map fun code => (code, code))
  let cased := (sameLetter.filter fun pair => letters.has pair.2).map Prod.fst
  set.union (letters.union (ofRanges (cased.map fun code => (code, code))))

/-- A set with each of its ASCII letters in both cases. -/
def inBothAsciiCases (set : CharSet) : CharSet :=
  let letters : CharSet := ⟨[(0x41, 0x5A), (0x61, 0x7A)]⟩
  let shared := (set.intersection letters).ranges
  let swapped := shared.map fun (first, last) =>
    if first < 0x61 then (first + 0x20, last + 0x20) else (first - 0x20, last - 0x20)
  ofRanges (set.ranges ++ swapped)

end CharSet

end Concordance.Pattern
