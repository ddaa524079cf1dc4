import Concordance.Text.Digit

/-!
Contract: character references in markup.

A reference is an ampersand, a name or a number, and a semicolon. An ampersand that
does not begin a reference to a character stands for itself.

Owns: the references that are known, and decoding a text.

Does not own: where in a document references are decoded (`Concordance.Html.Content`).
-/

set_option autoImplicit false

namespace Concordance.Html

open Concordance.Text (isHexDigit numberOf ofNumber?)

/-- The character with a name. -/
def named? (name : Text) : Option Char :=
  if name = "amp".toList then some '&'
  else if name = "lt".toList then some '<'
  else if name = "gt".toList then some '>'
  else if name = "quot".toList then some '"'
  else if name = "apos".toList then some '\''
  else if name = "nbsp".toList then some ' '
  else none

/-- Takes a run of characters and the semicolon behind it off the front of a text,
and reads the run. -/
def run? (member : Char → Bool) (read : Text → Option Char) (text : Text) :
    Option (Char × Text) :=
  match text.takeWhile member, text.dropWhile member with
  | first :: others, ';' :: rest => (read (first :: others)).map (·, rest)
  | _, _ => none

/-- Takes the rest of a reference, after its ampersand, off the front of a text. -/
def reference? : Text → Option (Char × Text)
  | '#' :: 'x' :: rest => run? isHexDigit (fun digits => ofNumber? (numberOf 16 digits)) rest
  | '#' :: 'X' :: rest => run? isHexDigit (fun digits => ofNumber? (numberOf 16 digits)) rest
  | '#' :: rest => run? Char.isDigit (fun digits => ofNumber? (numberOf 10 digits)) rest
  | text => run? Char.isAlpha named? text

theorem length_lt_of_run? {member : Char → Bool} {read : Text → Option Char}
    {text rest : Text} {character : Char}
    (found : run? member read text = some (character, rest)) :
    rest.length < text.length := by
  have dropped := (List.dropWhile_sublist (l := text) member).length_le
  unfold run? at found
  split at found
  · rename_i remaining split
    rw [split, List.length_cons] at dropped
    obtain ⟨_, _, same⟩ := Option.map_eq_some_iff.mp found
    cases same
    exact dropped
  · cases found

theorem length_lt_of_reference? {text rest : Text} {character : Char}
    (found : reference? text = some (character, rest)) : rest.length < text.length := by
  unfold reference? at found
  split at found
  · exact Nat.lt_trans (length_lt_of_run? found) (by simp only [List.length_cons]; omega)
  · exact Nat.lt_trans (length_lt_of_run? found) (by simp only [List.length_cons]; omega)
  · exact Nat.lt_trans (length_lt_of_run? found) (Nat.lt_succ_self _)
  · exact length_lt_of_run? found

/-- The text with every reference replaced by its character. What a reference stands
for is not looked at again. -/
def decode (text : Text) : Text :=
  match text with
  | [] => []
  | character :: rest =>
      if character = '&' then
        match _found : reference? rest with
        | some (referred, after) => referred :: decode after
        | none => '&' :: decode rest
      else character :: decode rest
termination_by text.length
decreasing_by
  · exact Nat.lt_succ_of_lt (length_lt_of_reference? _found)
  · exact Nat.lt_succ_self _
  · exact Nat.lt_succ_self _

end Concordance.Html
