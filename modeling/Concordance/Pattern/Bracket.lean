import Concordance.Pattern.Escape

/-!
Contract: reading the sets of characters that are written between brackets.

A set lists characters, ranges, named sets and further brackets. Sets that stand one
behind another are united, and two of them can be combined by a doubled sign, which
binds less.

Owns: `Bracket.read`.

Does not own: the characters that belong to a set (`Concordance.Pattern.Meaning`).
-/

set_option autoImplicit false

namespace Concordance.Pattern

/-- Items of a set that are united, the latest first. -/
structure Collected where
  span : Span
  items : List SetTree

namespace Collected

/-- No items yet. -/
def empty (position : Position) : Collected := ⟨.at position, []⟩

/-- The items with a further one. -/
def push (collected : Collected) (item : SetTree) : Collected :=
  let start :=
    if collected.items.isEmpty then item.span.start else collected.span.start
  ⟨⟨start, item.span.stop⟩, item :: collected.items⟩

/-- The items as one set. -/
def tree (collected : Collected) : SetTree :=
  match collected.items with
  | [] => .empty collected.span
  | [item] => item
  | items => .union collected.span items.reverse

end Collected

/-- A bracket that has been opened: where that is written, whether all other characters
are meant, the operand in front of a sign, and the items since. -/
structure Bracket where
  span : Span
  negated : Bool
  left : Option (SetTree × Operation)
  collected : Collected

namespace Bracket

open Reading

/-- All that has been read in a bracket, as one set. -/
def inner (bracket : Bracket) : SetTree :=
  let right := bracket.collected.tree
  match bracket.left with
  | none => right
  | some (left, kind) => .operation ⟨left.span.start, right.span.stop⟩ kind left right

/-- A bracket with a further item. -/
def push (bracket : Bracket) (item : SetTree) : Bracket :=
  { bracket with collected := bracket.collected.push item }

/-- Reads the hyphens that stand for themselves at the beginning of a set, of which
there are fewer than `fuel`. -/
def hyphens (start : Position) : Nat → Collected → Reading Collected
  | 0, collected => return collected
  | fuel + 1, collected => do
      if (← peek?) = some '-' then
        let collected := collected.push (.literal ⟨← here, '-', false⟩)
        next
        if ← atEnd then fail .unclosedSet (.at start)
        else hyphens start fuel collected
      else return collected

/-- Opens a bracket. A closing one that comes first stands for itself. -/
def openBracket : Reading Bracket := do
  let start ← position
  let sinceStart : Reading Span := return ⟨start, ← position⟩
  next
  if ← atEnd then fail .unclosedSet (← sinceStart)
  let negated := (← peek?) = some '^'
  if negated then
    next
    if ← atEnd then fail .unclosedSet (← sinceStart)
  let collected ← hyphens start (← get).rest.length (.empty (← position))
  if collected.items.isEmpty && (← peek?) = some ']' then
    let collected := collected.push (.literal ⟨← here, ']', false⟩)
    next
    if ← atEnd then fail .unclosedSet (← sinceStart)
    return ⟨← sinceStart, negated, none, collected⟩
  else return ⟨← sinceStart, negated, none, collected⟩

/-- Reads a set that is named between colons, if one comes next. -/
def asciiClass? : Reading (Option NamedClass) := do
  let cursor ← get
  match cursor.rest with
  | '[' :: ':' :: rest =>
      let negated := rest.head? = some '^'
      let named := if negated then rest.drop 1 else rest
      let name := named.takeWhile (· ≠ ':')
      let front : Text := if negated then ['[', ':', '^'] else ['[', ':']
      match AsciiClass.ofName? name with
      | none => return none
      | some kind =>
          if ← stepOver (front ++ name ++ [':', ']']) then
            return some ⟨⟨cursor.position, ← position⟩, negated, .ascii kind⟩
          else return none
  | _ => return none

/-- Reads an end of a range, or an item that is no range. -/
def primitive : Reading Primitive := do
  match ← peek? with
  | some '\\' => Escape.read
  | some character =>
      let span ← here
      step
      return .literal ⟨span, character, false⟩
  | none => fail .unclosedSet (← here)

/-- A primitive as an item of a set. -/
def item : Primitive → Reading SetTree
  | .literal written => return .literal written
  | .named written => return .named written
  | other => fail .invalidEscapeInSet other.span

/-- A primitive as an end of a range. -/
def rangeEnd : Primitive → Reading Literal
  | .literal written => return written
  | other => fail .rangeOfNoLiteral other.span

/-- Reads a range, or an item that is no range. A hyphen makes no range in front of
another one or of the closing bracket. -/
def rangeOrItem (opening : Span) : Reading SetTree := do
  let first ← primitive
  skip
  if ← atEnd then fail .unclosedSet opening
  let second := (← get).second?
  if (← peek?) ≠ some '-' || second = some ']' || second = some '-' then item first
  else
    next
    if ← atEnd then fail .unclosedSet opening
    let last ← primitive
    let span : Span := ⟨first.span.start, last.span.stop⟩
    let low ← rangeEnd first
    let high ← rangeEnd last
    if high.character < low.character then fail .reversedRange span
    else return .range span low high

/-- The combination that a doubled sign stands for. -/
def operation? (first second : Option Char) : Option Operation :=
  match first, second with
  | some '&', some '&' => some .intersection
  | some '-', some '-' => some .difference
  | some '~', some '~' => some .symmetricDifference
  | _, _ => none

/-- Reads up to the bracket that closes the outermost of those that are open, the
innermost of which is `current`, in fewer than `fuel` steps. -/
def readFrom (outer : List Bracket) (current : Bracket) : Nat → Reading Tree
  | 0 => fail .unclosedSet current.span
  | fuel + 1 => do
      skip
      let cursor ← get
      match cursor.rest.head? with
      | none => fail .unclosedSet current.span
      | some '[' =>
          match ← asciiClass? with
          | some named => readFrom outer (current.push (.named named)) fuel
          | none => readFrom (current :: outer) (← openBracket) fuel
      | some ']' =>
          step
          let span : Span := ⟨current.span.start, ← position⟩
          match outer with
          | [] => return .bracketed span current.negated current.inner
          | parent :: others =>
              let bracketed := .bracketed span current.negated current.inner
              readFrom others (parent.push bracketed) fuel
      | first =>
          match operation? first cursor.step.rest.head? with
          | some kind =>
              step
              step
              let collected := .empty (← position)
              let left := some (current.inner, kind)
              readFrom outer { current with left, collected } fuel
          | none =>
              readFrom outer (current.push (← rangeOrItem current.span)) fuel

/-- Reads a set from its opening bracket to the one that closes it. -/
def read : Reading Tree := do
  let bracket ← openBracket
  readFrom [] bracket ((← get).rest.length + 1)

end Bracket

end Concordance.Pattern
