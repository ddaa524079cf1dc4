import Concordance.Text.Basic

/-!
Contract: byte offsets into a text.

Owns: the parts of a text before and after a byte offset, and between two
offsets; an offset inside a character or past the end names no part.

Does not own: spans of queries (`Concordance.Query.Span`).
-/

set_option autoImplicit false

namespace Concordance.Text

/-- The text from a byte offset on. -/
def dropBytes? : Nat → Text → Option Text
  | 0, text => some text
  | _ + 1, [] => none
  | offset + 1, character :: rest =>
      if character.utf8Size ≤ offset + 1 then
        dropBytes? (offset + 1 - character.utf8Size) rest
      else none

/-- The text up to a byte offset. -/
def takeBytes? : Nat → Text → Option Text
  | 0, _ => some []
  | _ + 1, [] => none
  | offset + 1, character :: rest =>
      if character.utf8Size ≤ offset + 1 then
        (takeBytes? (offset + 1 - character.utf8Size) rest).map (character :: ·)
      else none

/-- The text between two byte offsets. -/
def slice? (start stop : Nat) (text : Text) : Option Text :=
  if start ≤ stop then (dropBytes? start text).bind (takeBytes? (stop - start))
  else none

end Concordance.Text
