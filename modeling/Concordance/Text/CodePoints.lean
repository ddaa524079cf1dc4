import Concordance.Text.Digit

/-!
Contract: sets and mappings of code points as the tables write them.

A set is written as capital hexadecimal numerals with blanks between them: `41` is one
code point, `41-5A` are all from the first to the last, and `100-12E/2` is every second
one. Behind a colon stands what the first one is mapped to, and the others follow in
the same steps.

Owns: reading such sets and mappings.

Does not own: the tables, which hold the data alone.
-/

set_option autoImplicit false

namespace Concordance.Text.CodePoints

/-- The value of a hexadecimal numeral. -/
def numeral (digits : Text) : Nat := numberOf 16 digits

/-- The parts of a line that have blanks between them. -/
def parts (line : String) : List Text := line.toList.splitOn ' '

/-- Every `step`-th code point from `first` to `last`. -/
structure Run where
  first : Nat
  last : Nat
  step : Nat
deriving DecidableEq, Repr

namespace Run

/-- Reads a run. -/
def ofText (text : Text) : Run :=
  let bounds (written : Text) (step : Nat) : Run :=
    match written.splitOn '-' with
    | [first, last] => ⟨numeral first, numeral last, step⟩
    | _ => ⟨numeral written, numeral written, step⟩
  match text.splitOn '/' with
  | [written, step] => bounds written (numeral step)
  | _ => bounds text 1

/-- Whether a run has a code point. -/
def contains (run : Run) (code : Nat) : Bool :=
  run.first ≤ code && code ≤ run.last && (code - run.first) % run.step == 0

/-- The code points of a run, in ascending order. -/
def members (run : Run) : List Nat :=
  (List.range ((run.last - run.first) / run.step + 1)).map (run.first + run.step * ·)

/-- A run as ranges without steps. -/
def ranges (run : Run) : List (Nat × Nat) :=
  if run.step = 1 then [(run.first, run.last)]
  else run.members.map fun code => (code, code)

end Run

/-- The ranges of a written set, ascending as they are written. -/
def ranges (lines : List String) : List (Nat × Nat) :=
  lines.flatMap fun line => (parts line).flatMap fun part => (Run.ofText part).ranges

/-- A run of code points, the first of which is mapped to `target`. -/
structure Shift where
  run : Run
  target : Nat
deriving DecidableEq, Repr

namespace Shift

/-- What a code point is mapped to, if it belongs to the run. -/
def image? (shift : Shift) (code : Nat) : Option Nat :=
  if shift.run.contains code then some (shift.target + (code - shift.run.first)) else none

end Shift

/-- The runs of a written mapping. -/
def shifts (lines : List String) : List Shift :=
  lines.flatMap fun line => (parts line).map fun part =>
    match part.splitOn ':' with
    | [run, target] => ⟨Run.ofText run, numeral target⟩
    | _ => ⟨Run.ofText part, (Run.ofText part).first⟩

/-- The sequences of code points that a written line spells, with plus signs inside
them. -/
def sequences (line : String) : List (List Nat) :=
  (parts line).map fun part => (part.splitOn '+').map numeral

/-- What stands for a code point in a table whose lines begin with the first code point
that they are about. -/
def spelled? (table : List (Nat × String)) (code : Nat) : Option (List Nat) :=
  table.findSome? fun entry =>
    if entry.1 ≤ code && code < entry.1 + entry.2.length then
      (sequences entry.2)[code - entry.1]?
    else none

end Concordance.Text.CodePoints
