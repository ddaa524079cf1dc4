import Concordance.Pattern.Cursor

/-!
Contract: what a backslash and the characters behind it stand for.

Owns:
- characters by their number, and characters with a letter of their own;
- properties and other named sets;
- anchors.

Does not own: which properties there are (`Concordance.Pattern.Property`).
-/

set_option autoImplicit false

namespace Concordance.Pattern

/-- What stands for one character, for a place or for a set. -/
inductive Primitive where
  | literal (literal : Literal)
  | dot (span : Span)
  | anchor (span : Span) (kind : Anchor)
  | named (named : NamedClass)
deriving DecidableEq, Repr

namespace Primitive

/-- The part of the text where a primitive is written. -/
def span : Primitive → Span
  | literal written => written.span
  | dot span => span
  | anchor span _ => span
  | named written => written.span

/-- A primitive as a pattern. -/
def tree : Primitive → Tree
  | literal written => .literal written
  | dot span => .dot span
  | anchor span kind => .anchor span kind
  | named written => .named written

end Primitive

namespace Escape

open Reading

/-- Characters with a meaning of their own. -/
def operators : List Char :=
  ['\\', '.', '+', '*', '?', '(', ')', '|', '[', ']', '\x7b', '\x7d', '^', '$', '#',
    '&', '-', '~']

/-- Whether a backslash in front of a character lets it stand for itself. -/
def standsForItself (character : Char) : Bool :=
  operators.contains character
    || (character.toNat < 0x80 && !character.isAlphanum && character ≠ '<'
      && character ≠ '>')

/-- The characters that are written by a letter. -/
def lettered? : Char → Option Char
  | 'a' => some '\x07'
  | 'f' => some '\x0c'
  | 't' => some '\t'
  | 'n' => some '\n'
  | 'r' => some '\r'
  | 'v' => some '\x0b'
  | _ => none

/-- Reads hexadecimal digits, of which there are still `number`, with no step in front
of the first one. -/
def fixedDigits (isFirst : Bool) : Nat → Reading Text
  | 0 => return []
  | number + 1 => do
      if !isFirst then next
      match ← peek? with
      | none => fail .unfinishedEscape (.at (← position))
      | some digit =>
          if Text.isHexDigit digit then
            return digit :: (← fixedDigits false number)
          else fail .invalidHexDigit (← here)

/-- Reads the number of a character in a fixed number of digits. -/
def fixedNumber (start : Position) (isByte : Bool) (number : Nat) : Reading Literal := do
  let first ← position
  let digits ← fixedDigits true number
  next
  match Text.ofNumber? (Text.numberOf 16 digits) with
  | none => fail .hexOfNoCharacter ⟨first, ← position⟩
  | some character =>
      return ⟨⟨start, ← position⟩, character, isByte && character.toNat < 256⟩

/-- Reads the number of a character between braces. -/
def bracedNumber (start : Position) : Reading Literal := do
  let brace ← here
  next
  let digits ← collect Text.isHexDigit next
  match ← peek? with
  | none => fail .unfinishedEscape ⟨brace.start, ← position⟩
  | some '\x7d' =>
      let stop ← position
      next
      if digits.isEmpty then fail .emptyHex ⟨brace.start, ← position⟩
      else
        match Text.ofNumber? (Text.numberOf 16 digits) with
        | none => fail .hexOfNoCharacter ⟨brace.stop, stop⟩
        | some character => return ⟨⟨start, ← position⟩, character, false⟩
  | some _ => fail .invalidHexDigit (← here)

/-- Reads a character that is written by its number, in `number` digits or in braces. -/
def numbered (start : Position) (isByte : Bool) (number : Nat) : Reading Literal := do
  next
  match ← peek? with
  | none => fail .unfinishedEscape (.at (← position))
  | some '\x7b' => bracedNumber start
  | some _ => fixedNumber start isByte number

/-- The two parts of a text around the first occurrence of another one. -/
def around? (separator : Text) : Text → Option (Text × Text)
  | [] => none
  | character :: rest =>
      if separator.isPrefixOf (character :: rest) then
        some ([], (character :: rest).drop separator.length)
      else (around? separator rest).map fun (before, after) => (character :: before, after)

/-- The property that a text asks for. A value stands behind a sign, and it does not
matter which one. -/
def queryOf (text : Text) : Query :=
  match (around? "!=" text).or ((around? ":" text).or (around? "=" text)) with
  | some (name, value) => .valued name value
  | none => .binary text

/-- Reads the name of a property, which is one character or stands between braces. -/
def property (start : Position) (negated : Bool) : Reading NamedClass := do
  next
  match ← peek? with
  | none => fail .unfinishedEscape (.at (← position))
  | some '\x7b' =>
      next
      let text ← collect (fun character => character ≠ '\x7d') next
      if ← atEnd then fail .unfinishedEscape (.at (← position))
      else
        step
        return ⟨⟨start, ← position⟩, negated, .property (queryOf text)⟩
  | some '\\' => fail .invalidProperty (← here)
  | some character =>
      next
      return ⟨⟨start, ← position⟩, negated, .property (.binary [character])⟩

/-- Characters of a special border's name. -/
def isBorderChar (character : Char) : Bool := character.isAlpha || character = '-'

/-- The special border of a name. -/
def border? (name : Text) : Option Anchor :=
  match String.ofList name with
  | "start" => some .wordStart
  | "end" => some .wordEnd
  | "start-half" => some .wordStartHalf
  | "end-half" => some .wordEndHalf
  | _ => none

/-- Reads the kind of a word border. Its name stands between braces. Braces with
anything else are left to be read as a count. -/
def wordBorder (start : Position) : Reading Primitive := do
  let plain : Primitive := .anchor ⟨start, ← position⟩ .wordBorder
  let before ← get
  if (← peek?) = some '\x7b' then
    next
    let inside ← position
    match ← peek? with
    | none => fail .unfinishedWordBorder ⟨start, inside⟩
    | some first =>
        if isBorderChar first then
          let name ← collect isBorderChar next
          let stop ← position
          if (← peek?) = some '\x7d' then
            step
            match border? name with
            | some kind => return .anchor ⟨start, ← position⟩ kind
            | none => fail .unknownWordBorder ⟨inside, stop⟩
          else fail .unclosedWordBorder ⟨before.position, stop⟩
        else
          set before
          return plain
  else return plain

/-- The set of a letter, and whether all other characters are meant. -/
def perlClass? : Char → Option (ClassName × Bool)
  | 'd' => some (.digit, false)
  | 's' => some (.space, false)
  | 'w' => some (.word, false)
  | 'D' => some (.digit, true)
  | 'S' => some (.space, true)
  | 'W' => some (.word, true)
  | _ => none

/-- The anchor of a character. -/
def anchor? : Char → Option Anchor
  | 'A' => some .textStart
  | 'z' => some .textEnd
  | 'B' => some .noWordBorder
  | '<' => some .wordStart
  | '>' => some .wordEnd
  | _ => none

/-- Reads what a single character behind a backslash stands for. -/
def single (start : Position) (character : Char) : Reading Primitive := do
  step
  let span : Span := ⟨start, ← position⟩
  if standsForItself character then return .literal ⟨span, character, false⟩
  else
    match lettered? character, perlClass? character, anchor? character with
    | some meant, _, _ => return .literal ⟨span, meant, false⟩
    | _, some (name, negated), _ => return .named ⟨span, negated, name⟩
    | _, _, some kind => return .anchor span kind
    | _, _, _ =>
        if character = 'b' then wordBorder start else fail .unknownEscape span

/-- Reads a backslash and what belongs to it. -/
def read : Reading Primitive := do
  let start ← position
  step
  match ← peek? with
  | none => fail .unfinishedEscape ⟨start, ← position⟩
  | some 'x' => return .literal (← numbered start true 2)
  | some 'u' => return .literal (← numbered start false 4)
  | some 'U' => return .literal (← numbered start false 8)
  | some 'p' => return .named (← property start false)
  | some 'P' => return .named (← property start true)
  | some character =>
      if character.isDigit then fail .backreference ⟨start, (← here).stop⟩
      else single start character

end Escape

end Concordance.Pattern
