import Concordance.Pattern.Size

/-!
Contract: whether a text has a part that a pattern stands for.

The places of a text are counted from zero, and a set of places is a number that has
a one for each of them, the lowest one for the beginning. From the places where a part
can begin follow those where it can end, so that no choice has to be taken back.

Owns:
- `Expression.occursIn`;
- `Expression.ofText`, which takes a text from the reading of it to what it stands for.

Does not own: what a written pattern stands for (`Concordance.Pattern.Meaning`).
-/

set_option autoImplicit false

namespace Concordance.Pattern

/-- A set of places in a text. -/
abbrev Places := Nat

/-- The characters that word borders separate from all others. -/
def isWordChar (unicode : Bool) (character : Char) : Bool :=
  if unicode then Text.isWordlike character
  else character.isAlphanum || character = '_'

/-- Whether a condition holds between two characters, either of which can be missing. -/
def Look.holds (look : Look) (before after : Option Char) : Bool :=
  let isWord (unicode : Bool) (side : Option Char) : Bool :=
    (side.map (isWordChar unicode)).getD false
  match look with
  | .textStart => before.isNone
  | .textEnd => after.isNone
  | .lineStart false => before.isNone || before = some '\n'
  | .lineStart true =>
      before.isNone || before = some '\n' || (before = some '\r' && after ≠ some '\n')
  | .lineEnd false => after.isNone || after = some '\n'
  | .lineEnd true =>
      after.isNone || after = some '\r' || (after = some '\n' && before ≠ some '\r')
  | .wordBorder unicode => isWord unicode before ≠ isWord unicode after
  | .noWordBorder unicode => isWord unicode before = isWord unicode after
  | .wordStart unicode => !isWord unicode before && isWord unicode after
  | .wordEnd unicode => isWord unicode before && !isWord unicode after
  | .wordStartHalf unicode => !isWord unicode before
  | .wordEndHalf unicode => !isWord unicode after

namespace Places

/-- The places behind which a character is accepted. -/
def before (accepts : Char → Bool) : Text → Places
  | [] => 0
  | character :: rest => (if accepts character then 1 else 0) + 2 * before accepts rest

/-- The places at which a condition holds, where `previous` is the character in front of
the text. -/
def between (holds : Option Char → Option Char → Bool) (previous : Option Char) :
    Text → Places
  | [] => if holds previous none then 1 else 0
  | character :: rest =>
      (if holds previous (some character) then 1 else 0)
        + 2 * between holds (some character) rest

/-- All places of a text. -/
def all (text : Text) : Places := between (fun _ _ => true) none text

/-- Takes a step up to `count` times, as long as it leads to other places. -/
def repeated (step : Places → Places) : Nat → Places → Places
  | 0, places => places
  | count + 1, places =>
      let next := step places
      if next = places then places else repeated step count next

end Places

/-- An expression as it applies to one text: its sets are the places in front of their
characters, and its conditions are the places where they hold. -/
inductive Course where
  | nothing
  | step (places : Places)
  | stay (places : Places)
  | sequence (first second : Course)
  | choice (first second : Course)
  | repetition (least : Nat) (most : Option Nat) (inner : Course)

namespace Course

/-- The places where a course can end that begins at some places of a text with
`length` characters. -/
def ends (length : Nat) : Course → Places → Places
  | nothing, places => places
  | step accepted, places => (places &&& accepted) <<< 1
  | stay accepted, places => places &&& accepted
  | sequence first second, places => second.ends length (first.ends length places)
  | choice first second, places => first.ends length places ||| second.ends length places
  | repetition least most inner, places =>
      let reached := Places.repeated (inner.ends length) least places
      let further := (most.map (· - least)).getD (length + 1)
      Places.repeated (fun places => places ||| inner.ends length places) further reached

end Course

namespace Expression

/-- An expression as it applies to a text. -/
def along (text : Text) : Expression → Course
  | nothing => .nothing
  | oneOf set => .step (Places.before set.contains text)
  | look condition => .stay (Places.between condition.holds none text)
  | sequence first second => .sequence (first.along text) (second.along text)
  | choice first second => .choice (first.along text) (second.along text)
  | repetition least most inner => .repetition least most (inner.along text)
  | capture inner => inner.along text

/-- Whether a text has a part that an expression stands for. -/
def occursIn (expression : Expression) (text : Text) : Bool :=
  (expression.along text).ends text.length (Places.all text) ≠ 0

/-- What a text stands for as a pattern, or the account of why it is none. -/
def ofText (text : Text) : Except Text Expression :=
  let meant : Except Problem Expression := do
    let tree ← Tree.ofText text
    tree.checkDepth 0
    return (← Meaning.ofTree .initial tree).1
  match meant with
  | .error problem => .error (problem.render text)
  | .ok expression =>
      if expression.isTooLarge then
        .error (Text.concat
          ["Compiled regex exceeds size limit of ", Text.decimal Size.limit, " bytes."])
      else .ok expression

end Expression

end Concordance.Pattern
