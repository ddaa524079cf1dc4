import Concordance.Pattern.Basic

/-!
Contract: why a text is no pattern, and how the fault is shown.

Owns:
- the causes with their wording;
- the picture of a text with marks under the part that is at fault.

Does not own: where faults are found (`Concordance.Pattern.Reader` and
`Concordance.Pattern.Meaning`).
-/

set_option autoImplicit false

namespace Concordance.Pattern

/-- How deep a pattern may be nested. -/
def nestingLimit : Nat := 250

/-- Why a text is no pattern. -/
inductive Cause where
  | invalidEscapeInSet
  | reversedRange
  | rangeOfNoLiteral
  | unclosedSet
  | invalidDecimal
  | emptyHex
  | hexOfNoCharacter
  | invalidHexDigit
  | unfinishedEscape
  | unknownEscape
  | danglingNegation
  | repeatedFlag
  | repeatedNegation
  | unfinishedFlags
  | unknownFlag
  | repeatedGroupName
  | emptyGroupName
  | invalidGroupName
  | unclosedGroupName
  | unclosedGroup
  | unopenedGroup
  | tooDeep
  | reversedCount
  | emptyCount
  | unclosedCount
  | nothingToRepeat
  | unclosedWordBorder
  | unknownWordBorder
  | unfinishedWordBorder
  | invalidProperty
  | backreference
  | lookAround
  | unicodeNotAllowed
  | invalidUtf8
  | unknownProperty
  | unknownPropertyValue
deriving DecidableEq, Repr

/-- Wording of a cause. -/
def Cause.message : Cause → Text
  | invalidEscapeInSet => "invalid escape sequence found in character class"
  | reversedRange => "invalid character class range, the start must be <= the end"
  | rangeOfNoLiteral => "invalid range boundary, must be a literal"
  | unclosedSet => "unclosed character class"
  | invalidDecimal => "decimal literal invalid"
  | emptyHex => "hexadecimal literal empty"
  | hexOfNoCharacter => "hexadecimal literal is not a Unicode scalar value"
  | invalidHexDigit => "invalid hexadecimal digit"
  | unfinishedEscape => "incomplete escape sequence, reached end of pattern prematurely"
  | unknownEscape => "unrecognized escape sequence"
  | danglingNegation => "dangling flag negation operator"
  | repeatedFlag => "duplicate flag"
  | repeatedNegation => "flag negation operator repeated"
  | unfinishedFlags => "expected flag but got end of regex"
  | unknownFlag => "unrecognized flag"
  | repeatedGroupName => "duplicate capture group name"
  | emptyGroupName => "empty capture group name"
  | invalidGroupName => "invalid capture group character"
  | unclosedGroupName => "unclosed capture group name"
  | unclosedGroup => "unclosed group"
  | unopenedGroup => "unopened group"
  | tooDeep =>
      Text.concat
        ["exceed the maximum number of nested parentheses/brackets (",
          Text.decimal nestingLimit, ")"]
  | reversedCount =>
      "invalid repetition count range, the start must be <= the end"
  | emptyCount => "repetition quantifier expects a valid decimal"
  | unclosedCount => "unclosed counted repetition"
  | nothingToRepeat => "repetition operator missing expression"
  | unclosedWordBorder =>
      Text.concat
        ["special word boundary assertion is either unclosed or contains an ",
          "invalid character"]
  | unknownWordBorder =>
      Text.concat
        ["unrecognized special word boundary assertion, valid choices are: ",
          "start, end, start-half or end-half"]
  | unfinishedWordBorder =>
      Text.concat
        ["found either the beginning of a special word boundary or a bounded ",
          "repetition on a \\b with an opening brace, but no closing brace"]
  | invalidProperty => "invalid Unicode character class"
  | backreference => "backreferences are not supported"
  | lookAround => "look-around, including look-ahead and look-behind, is not supported"
  | unicodeNotAllowed => "Unicode not allowed here"
  | invalidUtf8 => "pattern can match invalid UTF-8"
  | unknownProperty => "Unicode property not found"
  | unknownPropertyValue => "Unicode property value not found"

/-- A cause with the part of the text that is at fault, and perhaps an earlier part that
it clashes with. -/
structure Problem where
  cause : Cause
  span : Span
  clash : Option Span
deriving DecidableEq, Repr

namespace Problem

/-- The lines of a text, without their ends. -/
def linesOf (text : Text) : List Text :=
  let withoutReturn (line : Text) : Text :=
    if line.getLast? = some '\r' then line.dropLast else line
  match (text.splitOn '\n').reverse with
  | [] => []
  | last :: ended =>
      (ended.reverse.map withoutReturn) ++ (if last.isEmpty then [] else [last])

/-- The spans of a problem, in the order of the text. -/
def spans (problem : Problem) : List Span :=
  match problem.clash with
  | none => [problem.span]
  | some other =>
      if other.start.isBefore problem.span.start then [other, problem.span]
      else [problem.span, other]

/-- The marks under the columns of spans, the first of which can stand in column
`column`. -/
def marks (column : Nat) : List Span → Text
  | [] => []
  | span :: rest =>
      let skipped := span.start.column - column
      let width := max 1 (span.stop.column - span.start.column)
      List.replicate skipped ' ' ++ List.replicate width '^'
        ++ marks (max span.start.column column + width) rest

/-- A numeral with blanks in front of it. -/
def padded (width number : Nat) : Text :=
  let digits := Text.decimal number
  List.replicate (width - digits.length) ' ' ++ digits

/-- The lines of a text, those with spans inside them with marks below. The lines are
numbered if there are several. -/
def picture (text : Text) (spans : List Span) : Text :=
  let lines := linesOf text
  let numbered := text.contains '\n'
  let digits :=
    (Text.decimal (lines.length + if text.getLast? = some '\n' then 1 else 0)).length
  let front (number : Nat) : Text :=
    if numbered then padded digits number ++ ": ".toList else "    "
  let margin := if numbered then digits + 2 else 4
  (lines.zipIdx 1).flatMap fun (line, number) =>
    let below := spans.filter fun span => span.start.line = number
    front number ++ line ++ ['\n']
      ++ (if below.isEmpty then []
          else List.replicate margin ' ' ++ marks 1 below ++ ['\n'])

/-- Where a span of several lines begins and ends. -/
def extent (span : Span) : Text :=
  Text.concat
    ["on line ", Text.decimal span.start.line, " (column ",
      Text.decimal span.start.column, ") through line ", Text.decimal span.stop.line,
      " (column ", Text.decimal (span.stop.column - 1), ")"]

/-- The account of a problem that was found in a text. -/
def render (text : Text) (problem : Problem) : Text :=
  let isOneLine (span : Span) : Bool := span.start.line = span.stop.line
  let drawn := picture text (problem.spans.filter isOneLine)
  let wide := problem.spans.filter fun span => !isOneLine span
  let divider : Text := List.replicate 79 '~' ++ ['\n']
  let body : Text :=
    if text.contains '\n' then
      divider ++ drawn ++ divider
        ++ (if wide.isEmpty then []
            else Text.joined ['\n'] (wide.map extent) ++ ['\n'])
    else drawn
  Text.concat ["regex parse error:\n", body, "error: ", problem.cause.message]

end Problem

end Concordance.Pattern
