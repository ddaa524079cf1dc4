import Concordance.Html.Pattern

/-!
Contract: parts of a document that hold no text of its own.

Comments, scripts and style sheets are dropped, each leaving one blank. A block that
is not closed is no block.

Owns: the blocks, and `visible`, the document without them.

Does not own: tags (`Concordance.Html.Piece`).
-/

set_option autoImplicit false

namespace Concordance.Html

open Concordance.Text (isBlank)

/-- What follows a comment whose opening bracket precedes the text. -/
def afterComment? (text : Text) : Option Text :=
  (afterText? "!--" text).bind (afterFirst? (afterText? "-->"))

/-- What follows the closing tag of an element at the front of a text. -/
def afterClosing? (name text : Text) : Option Text :=
  (afterText? "</" text).bind fun tag =>
    (afterName? name tag).bind fun rest => afterText? ">" (rest.dropWhile isBlank)

/-- What follows an element whose opening bracket precedes the text. The element goes
up to its first closing tag. -/
def afterElement? (name text : Text) : Option Text :=
  (afterName? name text).bind fun attributes =>
    if endsWord attributes then
      (afterChar? '>' attributes).bind (afterFirst? (afterClosing? name))
    else none

/-- What follows a block whose opening bracket precedes the text. -/
def afterBlock? (text : Text) : Option Text :=
  match afterComment? text with
  | some rest => some rest
  | none =>
      match afterElement? "script" text with
      | some rest => some rest
      | none => afterElement? "style" text

theorem length_le_of_afterComment? {text rest : Text}
    (found : afterComment? text = some rest) : rest.length ≤ text.length := by
  obtain ⟨body, opened, closed⟩ := Option.bind_eq_some_iff.mp found
  exact Nat.le_trans (length_le_of_afterFirst? length_le_of_afterText? closed)
    (length_le_of_afterText? opened)

theorem length_le_of_afterClosing? {name text rest : Text}
    (found : afterClosing? name text = some rest) : rest.length ≤ text.length := by
  obtain ⟨tag, opened, closed⟩ := Option.bind_eq_some_iff.mp found
  obtain ⟨following, same, ended⟩ := Option.bind_eq_some_iff.mp closed
  exact Nat.le_trans (length_le_of_afterText? ended)
    (Nat.le_trans (List.dropWhile_sublist isBlank).length_le
      (Nat.le_trans (length_le_of_afterName? same) (length_le_of_afterText? opened)))

theorem length_le_of_afterElement? {name text rest : Text}
    (found : afterElement? name text = some rest) : rest.length ≤ text.length := by
  obtain ⟨attributes, same, following⟩ := Option.bind_eq_some_iff.mp found
  split at following
  · obtain ⟨body, entered, closed⟩ := Option.bind_eq_some_iff.mp following
    exact Nat.le_trans (length_le_of_afterFirst? length_le_of_afterClosing? closed)
      (Nat.le_trans (Nat.le_of_lt (length_lt_of_afterChar? entered))
        (length_le_of_afterName? same))
  · cases following

theorem length_le_of_afterBlock? {text rest : Text}
    (found : afterBlock? text = some rest) : rest.length ≤ text.length := by
  unfold afterBlock? at found
  split at found
  · rename_i comment
    cases found
    exact length_le_of_afterComment? comment
  · split at found
    · rename_i script
      cases found
      exact length_le_of_afterElement? script
    · exact length_le_of_afterElement? found

/-- The document with a blank in the place of every block. -/
def visible (text : Text) : Text :=
  match text with
  | [] => []
  | character :: rest =>
      if character = '<' then
        match _found : afterBlock? rest with
        | some after => ' ' :: visible after
        | none => '<' :: visible rest
      else character :: visible rest
termination_by text.length
decreasing_by
  · exact Nat.lt_succ_of_le (length_le_of_afterBlock? _found)
  · exact Nat.lt_succ_self _
  · exact Nat.lt_succ_self _

end Concordance.Html
