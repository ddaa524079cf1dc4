import Concordance.Pattern.Bracket

/-!
Contract: reading a text as a pattern.

Owns:
- groups with their names and flags;
- choices, sequences and repetitions;
- `Tree.ofText`.

Does not own: how deep a pattern may be nested (`Concordance.Pattern.Nesting`).
-/

set_option autoImplicit false

namespace Concordance.Pattern

open Reading

/-- A group that has been opened, or the text as a whole: where the group is opened,
whether its text is kept apart, its flags, whether spacing was free outside, the
branches that are finished, where the first of them begins, and the current one. Both
lists have the latest first. -/
structure Level where
  opening : Option Span
  captures : Bool
  switches : List Switch
  freeOutside : Bool
  start : Position
  branches : List Tree
  branchStart : Position
  items : List Tree

namespace Level

/-- A level with nothing in it yet. -/
def opened (opening : Option Span) (captures : Bool) (switches : List Switch)
    (freeOutside : Bool) (position : Position) : Level :=
  ⟨opening, captures, switches, freeOutside, position, [], position, []⟩

/-- A level with a further item. -/
def push (level : Level) (item : Tree) : Level :=
  { level with items := item :: level.items }

/-- The current branch, which ends at a place. -/
def branch (level : Level) (stop : Position) : Tree :=
  match level.items with
  | [] => .empty ⟨level.branchStart, stop⟩
  | [item] => item
  | items => .sequence ⟨level.branchStart, stop⟩ items.reverse

/-- A level whose current branch ends at a place and is followed by another one. -/
def split (level : Level) (stop next : Position) : Level :=
  { level with
    branches := level.branch stop :: level.branches
    branchStart := next
    items := [] }

/-- The whole of a level, which ends at a place. -/
def tree (level : Level) (stop : Position) : Tree :=
  match level.branches with
  | [] => level.branch stop
  | branches =>
      .choice ⟨level.start, stop⟩ (level.branch stop :: branches).reverse

end Level

namespace Group

/-- Whether a character can stand in the name of a group. -/
def isNameChar (isFirst : Bool) (character : Char) : Bool :=
  character = '_' || Text.isLetter character
    || (!isFirst
      && (character = '.' || character = '[' || character = ']'
        || Text.isNumeric character))

/-- Reads the characters of a group's name. -/
def nameFrom (isFirst : Bool) : Nat → Reading Text
  | 0 => return []
  | fuel + 1 => do
      match ← peek? with
      | none => return []
      | some '>' => return []
      | some character =>
          if isNameChar isFirst character then
            step
            return character :: (← nameFrom false fuel)
          else fail .invalidGroupName (← here)

/-- Reads the name of a group, which no other group may have. -/
def name : Reading Unit := do
  let start ← position
  let text ← nameFrom true ((← get).rest.length + 1)
  let span : Span := ⟨start, ← position⟩
  if ← atEnd then fail .unclosedGroupName (.at (← position))
  else
    step
    if text.isEmpty then fail .emptyGroupName (.at start)
    else
      match (← get).names.lookup text with
      | some other => throw ⟨.repeatedGroupName, span, some other⟩
      | none => modify fun cursor => { cursor with names := (text, span) :: cursor.names }

/-- Reads flags up to a colon or the end of the group. The latest comes first in
`read`. -/
def switchesFrom (read : List (Switch × Span)) : Nat → Reading (List Switch)
  | 0 => return []
  | fuel + 1 => do
      let span ← here
      let add (switch : Switch) (repeated : Cause) : Reading (List Switch) := do
        match read.lookup switch with
        | some other => throw ⟨repeated, span, some other⟩
        | none =>
            step
            if ← atEnd then fail .unfinishedFlags (.at (← position))
            else switchesFrom ((switch, span) :: read) fuel
      match ← peek? with
      | some '-' => add .negation .repeatedNegation
      | some character =>
          if character = ':' || character = ')' then
            match read with
            | (.negation, negation) :: _ => fail .danglingNegation negation
            | _ => return (read.map Prod.fst).reverse
          else
            match Flag.ofChar? character with
            | some flag => add (.flag flag) .repeatedFlag
            | none => fail .unknownFlag span
      | none => fail .unfinishedFlags span

/-- What an opening parenthesis begins: flags for the rest of the group that it stands
in, or a group. -/
inductive Opening where
  | flags (span : Span) (switches : List Switch)
  | group (span : Span) (captures : Bool) (switches : List Switch)

/-- The characters behind an opening parenthesis that ask for a look around. -/
def lookArounds : List Text := ["?=", "?!", "?<=", "?<!"]

/-- Reads an opening parenthesis and what belongs to it. -/
def read : Reading Opening := do
  let opening ← here
  step
  skip
  let inside ← position
  let cursor ← get
  match lookArounds.find? (·.isPrefixOf cursor.rest) with
  | some look =>
      let _ ← stepOver look
      fail .lookAround ⟨opening.start, ← position⟩
  | none =>
      if ← stepOver "?P<" then
        name
        return .group opening true []
      else if ← stepOver "?<" then
        name
        return .group opening true []
      else if ← stepOver "?" then
        if ← atEnd then fail .unclosedGroup opening
        else
          let switches ← switchesFrom [] ((← get).rest.length + 1)
          let isGroup := (← peek?) = some ':'
          step
          if isGroup then return .group opening false switches
          else if switches.isEmpty then fail .nothingToRepeat (.at inside)
          else return .flags ⟨opening.start, ← position⟩ switches
      else return .group opening true []

end Group

namespace Repetition

/-- Takes back the item that a repetition is applied to. -/
def target (level : Level) : Reading (Tree × Level) := do
  match level.items with
  | item :: items =>
      if item.isRepeatable then return (item, { level with items })
      else fail .nothingToRepeat (.at (← position))
  | [] => fail .nothingToRepeat (.at (← position))

/-- The item with the number of its repetitions, which have just been read. -/
def finish (item : Tree) (level : Level) (least : Nat) (most : Option Nat) :
    Reading Level := do
  let span : Span := ⟨item.span.start, ← position⟩
  return level.push (.repetition span least most item)

/-- Reads a sign for a number of repetitions. -/
def sign (level : Level) (least : Nat) (most : Option Nat) : Reading Level := do
  let (item, level) ← target level
  step
  let _ ← stepOver "?"
  finish item level least most

/-- Reads a number of repetitions between braces. -/
def counted (level : Level) : Reading Level := do
  let start ← position
  let (item, level) ← target level
  let unclosed {α : Type} : Reading α := do fail .unclosedCount ⟨start, ← position⟩
  next
  if ← atEnd then unclosed
  let least ← count
  if ← atEnd then unclosed
  let (least, most) ←
    if (← peek?) = some ',' then do
      next
      if ← atEnd then unclosed
      if (← peek?) = some '\x7d' then pure (← liftExcept least, none)
      else
        let least ← liftExcept least
        pure (least, some (← liftExcept (← count)))
    else do
      let least ← liftExcept least
      pure (least, some least)
  if (← peek?) ≠ some '\x7d' then unclosed
  next
  let _ ← stepOver "?"
  match most with
  | some most =>
      if most < least then fail .reversedCount ⟨start, ← position⟩
      else finish item level least (some most)
  | none => finish item level least none
where
  /-- Goes on with a result or ends with its problem. -/
  liftExcept {α : Type} (result : Except Problem α) : Reading α :=
    match result with
    | .ok value => return value
    | .error problem => throw problem

end Repetition

/-- Reads up to the end of the text inside of the levels that are open, the innermost of
which is `level`, in fewer than `fuel` steps. -/
def readFrom (outer : List Level) (level : Level) : Nat → Reading Tree
  | 0 => return .empty (.at (← position))
  | fuel + 1 => do
      skip
      let reached ← position
      match ← peek? with
      | none =>
          match level.opening with
          | some opening => fail .unclosedGroup opening
          | none => return level.tree reached
      | some '(' =>
          match ← Group.read with
          | .flags span switches =>
              match setting? .freeSpacing true switches with
              | some freeSpacing => modify fun cursor => { cursor with freeSpacing }
              | none => pure ()
              readFrom outer (level.push (.flags span switches)) fuel
          | .group span captures switches =>
              let freeOutside := (← get).freeSpacing
              let freeSpacing := (setting? .freeSpacing true switches).getD freeOutside
              modify fun cursor => { cursor with freeSpacing }
              readFrom (level :: outer)
                (.opened (some span) captures switches freeOutside (← position)) fuel
      | some ')' =>
          match level.opening, outer with
          | some opening, parent :: others =>
              step
              modify fun cursor => { cursor with freeSpacing := level.freeOutside }
              let span : Span := ⟨opening.start, ← position⟩
              let group := .group span level.captures level.switches (level.tree reached)
              readFrom others (parent.push group) fuel
          | _, _ => fail .unopenedGroup (← here)
      | some '|' =>
          step
          readFrom outer (level.split reached (← position)) fuel
      | some '[' => readFrom outer (level.push (← Bracket.read)) fuel
      | some '?' => readFrom outer (← Repetition.sign level 0 (some 1)) fuel
      | some '*' => readFrom outer (← Repetition.sign level 0 none) fuel
      | some '+' => readFrom outer (← Repetition.sign level 1 none) fuel
      | some '\x7b' => readFrom outer (← Repetition.counted level) fuel
      | some character =>
          let span ← here
          let simple (tree : Tree) : Reading Tree := do
            step
            return tree
          let item ← match character with
            | '\\' => Primitive.tree <$> Escape.read
            | '.' => simple (.dot span)
            | '^' => simple (.anchor span .lineStart)
            | '$' => simple (.anchor span .lineEnd)
            | _ => simple (.literal ⟨span, character, false⟩)
          readFrom outer (level.push item) fuel

/-- Reads a text as a pattern. -/
def Tree.ofText (text : Text) : Except Problem Tree :=
  (readFrom [] (.opened none false [] false .start) (text.length + 1)).run' (.ofText text)

end Concordance.Pattern
