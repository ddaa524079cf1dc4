import Concordance.Pattern.Meaning

/-!
Contract: how much room an expression takes up once it is prepared for searching.

An expression is prepared twice, for reading a text forwards and backwards, as an
automaton that reads the bytes of characters. Repetitions are written out as often as
they are counted, so that short patterns can become too large.

Owns:
- the sequences of byte ranges that the characters of a set are encoded by;
- the room for both automata, and its limit.

Does not own: the search itself (`Concordance.Pattern.Search`), which needs no automaton.
-/

set_option autoImplicit false

namespace Concordance.Pattern

/-- A range of bytes. -/
abbrev ByteRange := Nat × Nat

namespace Size

/-- Splits a range of code points until all characters of a part have encodings of one
length that vary in whole ranges of bytes. -/
def parts : Nat → Nat × Nat → List (Nat × Nat)
  | 0, range => [range]
  | fuel + 1, (first, last) =>
      if last < first then []
      else if first < 0xE000 && 0xD7FF < last then
        parts fuel (first, 0xD7FF) ++ parts fuel (0xE000, last)
      else
        let borders := [0x7F, 0x7FF, 0xFFFF].filter fun top => first ≤ top && top < last
        match borders.head? with
        | some top => parts fuel (first, top) ++ parts fuel (top + 1, last)
        | none =>
            if last < 0x80 then [(first, last)]
            else
              let uneven := [0x40, 0x1000, 0x40000].filter fun block =>
                first / block ≠ last / block
                  && (first % block ≠ 0 || last % block ≠ block - 1)
              match uneven.head? with
              | none => [(first, last)]
              | some block =>
                  if first % block ≠ 0 then
                    let next := (first / block + 1) * block
                    parts fuel (first, next - 1) ++ parts fuel (next, last)
                  else
                    let next := last / block * block
                    parts fuel (first, next - 1) ++ parts fuel (next, last)

/-- The bytes of a code point. -/
def bytes (code : Nat) : List Nat :=
  let continued (shift : Nat) : Nat := 0x80 + (code >>> shift) % 0x40
  if code < 0x80 then [code]
  else if code < 0x800 then [0xC0 + (code >>> 6), continued 0]
  else if code < 0x10000 then [0xE0 + (code >>> 12), continued 6, continued 0]
  else [0xF0 + (code >>> 18), continued 12, continued 6, continued 0]

/-- The sequences of byte ranges that the characters of a set are encoded by. -/
def sequences (set : CharSet) : List (List ByteRange) :=
  (set.ranges.flatMap (parts 64)).map fun range => (bytes range.1).zip (bytes range.2)

/-- Room for a state. -/
def state : Nat := 32

/-- Room for a way out of a state by a range of bytes. -/
def transition : Nat := 8

/-- Room for a way out of a state without a byte. -/
def way : Nat := 4

/-- The states behind the first byte of some sequences: their first ranges, each with
what follows it. -/
def followers : List (List ByteRange) → List (ByteRange × List (List ByteRange))
  | [] => []
  | [] :: rest => followers rest
  | (first :: more) :: rest =>
      match followers rest with
      | (other, group) :: groups =>
          if first = other then (other, more :: group) :: groups
          else (first, [more]) :: (other, group) :: groups
      | [] => [(first, [more])]

/-- The different states that are reached from some, through up to `depth` bytes. -/
def reached : Nat → List (List (List ByteRange)) → List (List (List ByteRange))
  | 0, _ => []
  | depth + 1, states =>
      let next := (states.flatMap fun sequences => (followers sequences).map Prod.snd)
        |>.filter fun sequences => sequences.any fun sequence => !sequence.isEmpty
      let next := next.eraseDups
      (next ++ reached depth next).eraseDups

/-- Room for a set that is read forwards. States with the same continuations are one. -/
def forwardSet (set : CharSet) : Nat :=
  let start := sequences set
  let states := start :: reached 3 [start]
  states.foldl
    (fun room sequences => room + state + transition * (followers sequences).length) state

/-- Room for a set that is read backwards. Only beginnings of encodings are shared. -/
def backwardSet (set : CharSet) : Nat :=
  let all := sequences set
  let beginnings (length : Nat) : Nat :=
    (((all.filter fun sequence => length ≤ sequence.length).map
      (List.take length)).eraseDups).length
  let states := beginnings 1 + beginnings 2 + beginnings 3 + beginnings 4
  2 * state + way * all.length + state * states

/-- Room for a set: the bytes of a single character stand one behind another, and ASCII
ranges share a state. -/
def ofSet (forward : Bool) (set : CharSet) : Nat :=
  match set.ranges with
  | [] => state
  | [(first, last)] =>
      if first = last then state * (bytes first).length
      else if set.isAscii then 2 * state + transition
      else if forward then forwardSet set else backwardSet set
  | ranges =>
      if set.isAscii then 2 * state + transition * ranges.length
      else if forward then forwardSet set else backwardSet set

/-- Whether an expression stands for the empty text alone. -/
def isEmpty : Expression → Bool
  | .nothing => true
  | .oneOf _ => false
  | .look _ => true
  | .sequence first second => isEmpty first && isEmpty second
  | .choice first second => isEmpty first && isEmpty second
  | .repetition _ most inner => most = some 0 || isEmpty inner
  | .capture inner => isEmpty inner

/-- Whether an expression stands for the empty text too. -/
def canBeEmpty : Expression → Bool
  | .nothing => true
  | .oneOf _ => false
  | .look _ => true
  | .sequence first second => canBeEmpty first && canBeEmpty second
  | .choice first second => canBeEmpty first || canBeEmpty second
  | .repetition least _ inner => least = 0 || canBeEmpty inner
  | .capture inner => canBeEmpty inner

/-- The union of the sets that a choice is between, if it is between sets alone. -/
def sets? : Expression → Option CharSet
  | .oneOf set => some set
  | .choice first second =>
      match sets? first, sets? second with
      | some left, some right => some (left.union right)
      | _, _ => none
  | _ => none

/-- Room for a repetition of something that takes `inner`. -/
def repetition (canBeEmpty : Bool) (least : Nat) (most : Option Nat) (inner : Nat) :
    Nat :=
  match least, most with
  | 0, some 1 => inner + 2 * state + 2 * way
  | 0, none =>
      if canBeEmpty then inner + 3 * state + 4 * way else inner + state + 2 * way
  | least, none => least * inner + state + 2 * way
  | least, some most =>
      max state (least * inner)
        + (if most = least then 0
            else state + (most - least) * (inner + state + 2 * way))

/-- Room for an expression that is read in one direction, and perhaps is the rest of a
choice. -/
def room (forward inChoice : Bool) : Expression → Nat
  | .nothing => state
  | .oneOf set => ofSet forward set
  | .look _ => state
  | .sequence first second =>
      if first = .nothing then room forward false second
      else if second = .nothing then room forward false first
      else room forward false first + room forward false second
  | .choice first second =>
      match if inChoice then none else sets? (.choice first second) with
      | some set => ofSet forward set
      | none =>
          (if inChoice then way else 2 * state + 2 * way)
            + room forward false first + room forward true second
  | .repetition least most inner =>
      let least := if isEmpty inner then min least 1 else least
      let most := if isEmpty inner then some ((most.map (min 1)).getD 1) else most
      if most = some 0 then state
      else if least = 1 && most = some 1 then room forward false inner
      else repetition (canBeEmpty inner) least most (room forward false inner)
  | .capture inner => room forward false inner + if forward then 2 * state else 0

/-- Room for what stands around an expression: the search for its beginning, the ends of
what is found, and the state that accepts it. -/
def frame : Nat := 6 * state + 2 * way + transition

/-- The room that an expression may take up. -/
def limit : Nat := 10485760

end Size

/-- Whether an expression takes up too much room. -/
def Expression.isTooLarge (expression : Expression) : Bool :=
  Size.limit < Size.frame + Size.room true false expression
    || Size.limit < Size.frame + Size.room false false expression

end Concordance.Pattern
