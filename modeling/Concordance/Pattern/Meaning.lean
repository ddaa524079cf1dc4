import Concordance.Pattern.Nesting
import Concordance.Pattern.Property

/-!
Contract: what a written pattern stands for.

Owns:
- expressions, which hold no spans and no flags;
- the expression of a written pattern, and the faults that appear only when its flags
  are known.

Does not own: whether a text has a part that an expression stands for
(`Concordance.Pattern.Search`).
-/

set_option autoImplicit false

namespace Concordance.Pattern

/-- Conditions on a place that depend on the characters around it alone. -/
inductive Look where
  | textStart
  | textEnd
  | lineStart (carriageReturns : Bool)
  | lineEnd (carriageReturns : Bool)
  | wordBorder (unicode : Bool)
  | noWordBorder (unicode : Bool)
  | wordStart (unicode : Bool)
  | wordEnd (unicode : Bool)
  | wordStartHalf (unicode : Bool)
  | wordEndHalf (unicode : Bool)
deriving DecidableEq, Repr

/-- The texts that a pattern stands for: the empty one, one character of a set, the
empty one at some places, one text behind another one, one of two, several in
succession, or one that is kept apart from the others. -/
inductive Expression where
  | nothing
  | oneOf (set : CharSet)
  | look (look : Look)
  | sequence (first second : Expression)
  | choice (first second : Expression)
  | repetition (least : Nat) (most : Option Nat) (inner : Expression)
  | capture (inner : Expression)
deriving DecidableEq, Repr

/-- The flags that are on. -/
structure Flags where
  ignoreCase : Bool
  multiline : Bool
  dotAll : Bool
  unicode : Bool
  carriageReturns : Bool
deriving DecidableEq, Repr

namespace Flags

/-- The flags at the beginning of a pattern. -/
def initial : Flags := ⟨false, false, false, true, false⟩

/-- The flags after some have been turned on or off. -/
def after (flags : Flags) (switches : List Switch) : Flags :=
  let last? (flag : Flag) : Option Bool := setting? flag true switches
  { ignoreCase := (last? .ignoreCase).getD flags.ignoreCase
    multiline := (last? .multiline).getD flags.multiline
    dotAll := (last? .dotAll).getD flags.dotAll
    unicode := (last? .unicode).getD flags.unicode
    carriageReturns := (last? .carriageReturns).getD flags.carriageReturns }

end Flags

/-- The characters of a set of ASCII characters. -/
def AsciiClass.characters : AsciiClass → CharSet
  | alnum => ⟨[(0x30, 0x39), (0x41, 0x5A), (0x61, 0x7A)]⟩
  | alpha => ⟨[(0x41, 0x5A), (0x61, 0x7A)]⟩
  | ascii => ⟨[(0, 0x7F)]⟩
  | blank => ⟨[(0x9, 0x9), (0x20, 0x20)]⟩
  | cntrl => ⟨[(0, 0x1F), (0x7F, 0x7F)]⟩
  | digit => ⟨[(0x30, 0x39)]⟩
  | graph => ⟨[(0x21, 0x7E)]⟩
  | lower => ⟨[(0x61, 0x7A)]⟩
  | print => ⟨[(0x20, 0x7E)]⟩
  | punct => ⟨[(0x21, 0x2F), (0x3A, 0x40), (0x5B, 0x60), (0x7B, 0x7E)]⟩
  | space => ⟨[(0x9, 0xD), (0x20, 0x20)]⟩
  | upper => ⟨[(0x41, 0x5A)]⟩
  | word => ⟨[(0x30, 0x39), (0x41, 0x5A), (0x5F, 0x5F), (0x61, 0x7A)]⟩
  | xdigit => ⟨[(0x30, 0x39), (0x41, 0x46), (0x61, 0x66)]⟩

namespace Meaning

/-- A problem with a part of the text. -/
def fail {α : Type} (cause : Cause) (span : Span) : Except Problem α :=
  .error ⟨cause, span, none⟩

/-- A set in both cases and complemented, where that is asked for. Without Unicode, the
complement would have single bytes of longer characters. -/
def adjusted (flags : Flags) (span : Span) (negated : Bool) (set : CharSet) :
    Except Problem CharSet :=
  if flags.unicode then
    let set := if flags.ignoreCase then set.inBothCases else set
    .ok (if negated then set.complement else set)
  else if negated then fail .invalidUtf8 span
  else .ok (if flags.ignoreCase then set.inBothAsciiCases else set)

/-- The characters of a set that has a name. The sets that one letter names do not
change with the case. -/
def named (flags : Flags) (class_ : NamedClass) : Except Problem CharSet :=
  let lettered (wide : Property.Derived) (narrow : AsciiClass) : Except Problem CharSet :=
    adjusted { flags with ignoreCase := false } class_.span class_.negated
      (if flags.unicode then wide.characters else narrow.characters)
  match class_.name with
  | .digit => lettered Property.digitTrait .digit
  | .space => lettered Property.spaceTrait .space
  | .word => lettered Property.wordTrait .word
  | .ascii kind => adjusted flags class_.span class_.negated kind.characters
  | .property query =>
      if flags.unicode then
        match query.characters with
        | .ok set => adjusted flags class_.span class_.negated set
        | .error cause => fail cause class_.span
      else fail .unicodeNotAllowed class_.span

/-- Without Unicode, a character that is written as a byte stands for a byte, which has
to be a character of its own. -/
def checkByte (flags : Flags) (literal : Literal) : Except Problem Unit :=
  if !flags.unicode && literal.isByte && 0x7F < literal.character.toNat then
    fail .invalidUtf8 literal.span
  else .ok ()

/-- The code point of a character in a set, which is an ASCII character without
Unicode. -/
def member (flags : Flags) (literal : Literal) : Except Problem Nat := do
  checkByte flags literal
  if !flags.unicode && 0x7F < literal.character.toNat then
    fail .unicodeNotAllowed literal.span
  else .ok literal.character.toNat

mutual

/-- The characters of a set. -/
def ofSet (flags : Flags) : SetTree → Except Problem CharSet
  | .empty _ => .ok .none
  | .literal literal => return .single (← member flags literal)
  | .range _ first last => do
      let low ← member flags first
      let high ← member flags last
      return .ofRanges [(low, high)]
  | .named class_ => named flags class_
  | .bracketed span negated inner => do
      adjusted flags span negated (← ofSet flags inner)
  | .union _ items => ofSets flags items
  | .operation _ kind left right => do
      let left ← ofSet flags left
      let right ← ofSet flags right
      let cased (set : CharSet) : CharSet :=
        if !flags.ignoreCase then set
        else if flags.unicode then set.inBothCases
        else set.inBothAsciiCases
      return (cased left).combine kind (cased right)

/-- The characters of several sets. -/
def ofSets (flags : Flags) : List SetTree → Except Problem CharSet
  | [] => .ok .none
  | item :: items => do
      let first ← ofSet flags item
      let others ← ofSets flags items
      return first.union others

end

/-- The character that stands for itself. -/
def ofLiteral (flags : Flags) (literal : Literal) : Except Problem Expression := do
  checkByte flags literal
  let single : CharSet := .single literal.character.toNat
  return .oneOf
    (if !flags.ignoreCase then single
      else if flags.unicode then single.inBothCases
      else single.inBothAsciiCases)

/-- The characters that a dot stands for: all but those that end a line. -/
def dot (flags : Flags) : CharSet :=
  if flags.dotAll then CharSet.none.complement
  else if flags.carriageReturns then
    CharSet.complement (.ofRanges [(0xA, 0xA), (0xD, 0xD)])
  else CharSet.complement (.single 0xA)

/-- The condition that an anchor sets. -/
def lookOf (flags : Flags) : Anchor → Look
  | .lineStart => if flags.multiline then .lineStart flags.carriageReturns else .textStart
  | .lineEnd => if flags.multiline then .lineEnd flags.carriageReturns else .textEnd
  | .textStart => .textStart
  | .textEnd => .textEnd
  | .wordBorder => .wordBorder flags.unicode
  | .noWordBorder => .noWordBorder flags.unicode
  | .wordStart => .wordStart flags.unicode
  | .wordEnd => .wordEnd flags.unicode
  | .wordStartHalf => .wordStartHalf flags.unicode
  | .wordEndHalf => .wordEndHalf flags.unicode

mutual

/-- What a written pattern stands for, and the flags behind it. -/
def ofTree (flags : Flags) : Tree → Except Problem (Expression × Flags)
  | .empty _ => .ok (.nothing, flags)
  | .flags _ switches => .ok (.nothing, flags.after switches)
  | .literal literal => return (← ofLiteral flags literal, flags)
  | .dot span =>
      if flags.unicode then .ok (.oneOf (dot flags), flags)
      else fail .invalidUtf8 span
  | .anchor _ kind => .ok (.look (lookOf flags kind), flags)
  | .named class_ => return (.oneOf (← named flags class_), flags)
  | .bracketed span negated inner => do
      let set ← ofSet flags inner
      return (.oneOf (← adjusted flags span negated set), flags)
  | .repetition _ least most inner => do
      let (inner, after) ← ofTree flags inner
      return (.repetition least most inner, after)
  | .group _ captures switches inner => do
      let (inner, _) ← ofTree (flags.after switches) inner
      return (if captures then .capture inner else inner, flags)
  | .choice _ branches => ofBranches flags branches
  | .sequence _ items => ofItems flags items

/-- What written branches stand for, and the flags behind them. -/
def ofBranches (flags : Flags) : List Tree → Except Problem (Expression × Flags)
  | [] => .ok (.oneOf .none, flags)
  | [branch] => ofTree flags branch
  | branch :: branches => do
      let (first, flags) ← ofTree flags branch
      let (others, flags) ← ofBranches flags branches
      return (.choice first others, flags)

/-- What written items stand for one behind another, and the flags behind them. -/
def ofItems (flags : Flags) : List Tree → Except Problem (Expression × Flags)
  | [] => .ok (.nothing, flags)
  | [item] => ofTree flags item
  | item :: items => do
      let (first, flags) ← ofTree flags item
      let (others, flags) ← ofItems flags items
      return (.sequence first others, flags)

end

end Meaning

end Concordance.Pattern
