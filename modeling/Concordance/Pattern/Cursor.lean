import Concordance.Pattern.Problem
import Concordance.Text.CharClass
import Concordance.Text.Digit

/-!
Contract: reading a written pattern from front to back.

Owns:
- the cursor, with what has been found out so far;
- steps over characters, and over blanks and comments where spacing is free;
- the decimal numerals of counts.

Does not own: what the characters mean (`Concordance.Pattern.Escape`,
`Concordance.Pattern.Bracket` and `Concordance.Pattern.Reader`).
-/

set_option autoImplicit false

namespace Concordance.Pattern

open Concordance.Text (isBlank numberOf)

/-- What is left of a text, where that is, whether blanks and comments are passed over,
and the names of the groups so far. -/
structure Cursor where
  rest : Text
  position : Position
  freeSpacing : Bool
  names : List (Text × Span)
deriving DecidableEq, Repr

/-- Steps that move a cursor or end with a problem. -/
abbrev Reading := StateT Cursor (Except Problem)

namespace Cursor

/-- The cursor at the beginning of a text. -/
def ofText (text : Text) : Cursor := ⟨text, .start, false, []⟩

/-- Behind the next character. -/
def step (cursor : Cursor) : Cursor :=
  match cursor.rest with
  | [] => cursor
  | character :: rest =>
      { cursor with rest, position := cursor.position.after character }

/-- The span of the next character. -/
def here (cursor : Cursor) : Span := ⟨cursor.position, cursor.step.position⟩

/-- What is left behind blanks and comments, which begin with a hash and last to the end
of their line. -/
def behindBlanks (inComment : Bool) (position : Position) : Text → Text × Position
  | [] => ([], position)
  | character :: rest =>
      let after := position.after character
      if inComment then behindBlanks (character ≠ '\n') after rest
      else if isBlank character then behindBlanks false after rest
      else if character = '#' then behindBlanks true after rest
      else (character :: rest, position)

/-- Behind blanks and comments, if spacing is free. -/
def skip (cursor : Cursor) : Cursor :=
  if cursor.freeSpacing then
    let behind := behindBlanks false cursor.position cursor.rest
    { cursor with rest := behind.1, position := behind.2 }
  else cursor

/-- Behind the next character and what is passed over. -/
def next (cursor : Cursor) : Cursor := cursor.step.skip

/-- The character behind the next one. Where spacing is free, blanks and one hash are
not counted, unless nothing else is left. -/
def second? (cursor : Cursor) : Option Char :=
  let rest := cursor.step.rest
  if cursor.freeSpacing then
    let behind := rest.dropWhile isBlank
    let behind := match behind with
      | '#' :: more => more.dropWhile isBlank
      | _ => behind
    behind.head?.or rest.head?
  else rest.head?

end Cursor

namespace Reading

/-- Ends with a problem. -/
def fail {α : Type} (cause : Cause) (span : Span) : Reading α :=
  throw ⟨cause, span, none⟩

/-- The next character. -/
def peek? : Reading (Option Char) := return (← get).rest.head?

/-- The place that has been reached. -/
def position : Reading Position := return (← get).position

/-- The span of the next character. -/
def here : Reading Span := return (← get).here

/-- Passes over the next character. -/
def step : Reading Unit := modify Cursor.step

/-- Passes over the next character, and blanks and comments where spacing is free. -/
def next : Reading Unit := modify Cursor.next

/-- Passes over blanks and comments where spacing is free. -/
def skip : Reading Unit := modify Cursor.skip

/-- Whether the text has ended. -/
def atEnd : Reading Bool := return (← get).rest.isEmpty

/-- Passes over a text if it comes next. -/
def stepOver (text : Text) : Reading Bool := do
  let cursor ← get
  if text.isPrefixOf cursor.rest then
    set ((List.range text.length).foldl (fun cursor _ => cursor.step) cursor)
    return true
  else return false

/-- The next characters as long as they are accepted, each passed over by `advance`, of
which there may be `fuel`. -/
def collectFrom (accepts : Char → Bool) (advance : Reading Unit) : Nat → Reading Text
  | 0 => return []
  | fuel + 1 => do
      match ← peek? with
      | none => return []
      | some character =>
          if accepts character then
            advance
            return character :: (← collectFrom accepts advance fuel)
          else return []

/-- The next characters as long as they are accepted. -/
def collect (accepts : Char → Bool) (advance : Reading Unit) : Reading Text := do
  collectFrom accepts advance (← get).rest.length

/-- The largest count that can be written. -/
def countLimit : Nat := 4294967295

/-- Reads a count with blanks around it. Its absence is left to the caller to judge, who
is told where it should have been. -/
def count : Reading (Except Problem Nat) := do
  let _ ← collect isBlank step
  let start ← position
  let digits ← collect Char.isDigit next
  let span : Span := ⟨start, ← position⟩
  let _ ← collect isBlank next
  let value := numberOf 10 digits
  if digits.isEmpty then return .error ⟨.emptyCount, span, none⟩
  else if countLimit < value then return .error ⟨.invalidDecimal, span, none⟩
  else return .ok value

end Reading

end Concordance.Pattern
