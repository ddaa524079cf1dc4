import Concordance.Text.Basic

/-!
Contract: patterns as they are written.

A pattern is a sequence of characters, sets, anchors, groups and repetitions, or a
choice between such sequences. What is written keeps its place in the text, because
faults are shown there.

Owns:
- places and spans;
- flags, anchors, named sets, bracketed sets and the tree of a pattern.

Does not own: how a text is read (`Concordance.Pattern.Reader`), and what a pattern
stands for (`Concordance.Pattern.Meaning`).
-/

set_option autoImplicit false

namespace Concordance.Pattern

/-- A place in a text: its line and its column, both counted from one. -/
structure Position where
  line : Nat
  column : Nat
deriving DecidableEq, Repr

namespace Position

/-- The beginning of a text. -/
def start : Position := ⟨1, 1⟩

/-- The place behind a character. -/
def after (position : Position) (character : Char) : Position :=
  if character = '\n' then ⟨position.line + 1, 1⟩
  else ⟨position.line, position.column + 1⟩

/-- Whether a place comes before another one. -/
def isBefore (left right : Position) : Bool :=
  left.line < right.line || (left.line = right.line && left.column < right.column)

end Position

/-- A part of a text, up to the place behind its last character. -/
structure Span where
  start : Position
  stop : Position
deriving DecidableEq, Repr

/-- The empty part of a text at a place. -/
def Span.at (position : Position) : Span := ⟨position, position⟩

/-- What a group can turn on and off. -/
inductive Flag where
  | ignoreCase
  | multiline
  | dotAll
  | swapGreed
  | unicode
  | carriageReturns
  | freeSpacing
deriving DecidableEq, Repr

/-- The flag of a letter. -/
def Flag.ofChar? : Char → Option Flag
  | 'i' => some .ignoreCase
  | 'm' => some .multiline
  | 's' => some .dotAll
  | 'U' => some .swapGreed
  | 'u' => some .unicode
  | 'R' => some .carriageReturns
  | 'x' => some .freeSpacing
  | _ => none

/-- A flag, or the sign behind which flags are turned off. -/
inductive Switch where
  | negation
  | flag (flag : Flag)
deriving DecidableEq, Repr

/-- How the first mention of a flag leaves it, if it is mentioned. -/
def setting? (flag : Flag) (on : Bool) : List Switch → Option Bool
  | [] => none
  | .negation :: rest => setting? flag false rest
  | .flag other :: rest => if other = flag then some on else setting? flag on rest

/-- Conditions on a place between characters. -/
inductive Anchor where
  | lineStart
  | lineEnd
  | textStart
  | textEnd
  | wordBorder
  | noWordBorder
  | wordStart
  | wordEnd
  | wordStartHalf
  | wordEndHalf
deriving DecidableEq, Repr

/-- A character that stands for itself. It is a byte if it was written as one. -/
structure Literal where
  span : Span
  character : Char
  isByte : Bool
deriving DecidableEq, Repr

/-- A property of characters as it is asked for. -/
inductive Query where
  | binary (name : Text)
  | valued (name value : Text)
deriving DecidableEq, Repr

/-- The sets that have a name between colons, all of ASCII characters. -/
inductive AsciiClass where
  | alnum
  | alpha
  | ascii
  | blank
  | cntrl
  | digit
  | graph
  | lower
  | print
  | punct
  | space
  | upper
  | word
  | xdigit
deriving DecidableEq, Repr

/-- The set of a name. -/
def AsciiClass.ofName? (name : Text) : Option AsciiClass :=
  match String.ofList name with
  | "alnum" => some .alnum
  | "alpha" => some .alpha
  | "ascii" => some .ascii
  | "blank" => some .blank
  | "cntrl" => some .cntrl
  | "digit" => some .digit
  | "graph" => some .graph
  | "lower" => some .lower
  | "print" => some .print
  | "punct" => some .punct
  | "space" => some .space
  | "upper" => some .upper
  | "word" => some .word
  | "xdigit" => some .xdigit
  | _ => none

/-- Sets that have a name. -/
inductive ClassName where
  | digit
  | space
  | word
  | ascii (kind : AsciiClass)
  | property (query : Query)
deriving DecidableEq, Repr

/-- A set that is written by its name, or all other characters. -/
structure NamedClass where
  span : Span
  negated : Bool
  name : ClassName
deriving DecidableEq, Repr

/-- How two sets are combined. -/
inductive Operation where
  | intersection
  | difference
  | symmetricDifference
deriving DecidableEq, Repr

/-- What stands between brackets. -/
inductive SetTree where
  | empty (span : Span)
  | literal (literal : Literal)
  | range (span : Span) (first last : Literal)
  | named (named : NamedClass)
  | bracketed (span : Span) (negated : Bool) (inner : SetTree)
  | union (span : Span) (items : List SetTree)
  | operation (span : Span) (kind : Operation) (left right : SetTree)
deriving Repr

/-- The part of the text where a set is written. -/
def SetTree.span : SetTree → Span
  | empty span => span
  | literal written => written.span
  | range span _ _ => span
  | named written => written.span
  | bracketed span _ _ => span
  | union span _ => span
  | operation span _ _ _ => span

/-- A pattern as it is written. -/
inductive Tree where
  | empty (span : Span)
  | flags (span : Span) (switches : List Switch)
  | literal (literal : Literal)
  | dot (span : Span)
  | anchor (span : Span) (kind : Anchor)
  | named (named : NamedClass)
  | bracketed (span : Span) (negated : Bool) (inner : SetTree)
  | repetition (span : Span) (least : Nat) (most : Option Nat) (inner : Tree)
  | group (span : Span) (captures : Bool) (switches : List Switch) (inner : Tree)
  | choice (span : Span) (branches : List Tree)
  | sequence (span : Span) (items : List Tree)
deriving Repr

namespace Tree

/-- The part of the text where a pattern is written. -/
def span : Tree → Span
  | empty span => span
  | flags span _ => span
  | literal written => written.span
  | dot span => span
  | anchor span _ => span
  | named written => written.span
  | bracketed span _ _ => span
  | repetition span _ _ _ => span
  | group span _ _ _ => span
  | choice span _ => span
  | sequence span _ => span

/-- Whether a repetition can be applied. -/
def isRepeatable : Tree → Bool
  | empty _ => false
  | flags _ _ => false
  | _ => true

end Tree

end Concordance.Pattern
