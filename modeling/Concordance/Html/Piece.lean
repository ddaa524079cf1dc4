import Concordance.Html.Pattern

/-!
Contract: cutting a document at its tags.

A tag goes from an opening bracket to the first closing bracket after it. An opening
bracket without one is text.

Owns: the pieces between tags.

Does not own: what is inside tags (`Concordance.Html.Anchor`).
-/

set_option autoImplicit false

namespace Concordance.Html

/-- The pieces with one more character at the front of the first. -/
def extendFirst (character : Char) : List Text → List Text
  | [] => [[character]]
  | first :: others => (character :: first) :: others

/-- The pieces of a document between its tags, empty ones included. -/
def pieces (text : Text) : List Text :=
  match text with
  | [] => [[]]
  | character :: rest =>
      if character = '<' then
        match _found : afterChar? '>' rest with
        | some after => [] :: pieces after
        | none => extendFirst '<' (pieces rest)
      else extendFirst character (pieces rest)
termination_by text.length
decreasing_by
  · exact Nat.lt_succ_of_lt (length_lt_of_afterChar? _found)
  · exact Nat.lt_succ_self _
  · exact Nat.lt_succ_self _

end Concordance.Html
