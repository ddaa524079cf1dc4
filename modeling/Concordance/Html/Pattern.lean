import Concordance.Text.CharClass

/-!
Contract: the small patterns that markup is searched for.

Owns:
- names in either case;
- what follows a fixed text, a word border, or the first place where a pattern fits.

Does not own: the patterns of blocks and anchors.
-/

set_option autoImplicit false

namespace Concordance.Html

open Concordance.Text (isBlank isWordlike)

/-- The lower-case ASCII letter that a character stands for when case does not
matter. The long s and the Kelvin sign are letters of their own case pairs. -/
def foldCase (character : Char) : Char :=
  if character = 'ſ' then 's'
  else if character = '\u212A' then 'k'
  else character.toLower

/-- What follows a name, given in lower case and written in either. -/
def afterName? : Text → Text → Option Text
  | [], text => some text
  | _ :: _, [] => none
  | letter :: name, character :: rest =>
      if foldCase character = letter then afterName? name rest else none

/-- What follows a fixed text. -/
def afterText? : Text → Text → Option Text
  | [], text => some text
  | _ :: _, [] => none
  | expected :: others, character :: rest =>
      if character = expected then afterText? others rest else none

/-- Whether a word ends before a text. -/
def endsWord : Text → Bool
  | [] => true
  | character :: _ => !isWordlike character

/-- What follows the first place at which a pattern fits. -/
def afterFirst? (pattern : Text → Option Text) (text : Text) : Option Text :=
  match pattern text with
  | some rest => some rest
  | none =>
      match text with
      | [] => none
      | _ :: rest => afterFirst? pattern rest

/-- What follows the first character that is `last`. -/
def afterChar? (last : Char) (text : Text) : Option Text :=
  match text.dropWhile (· ≠ last) with
  | [] => none
  | _ :: rest => some rest

theorem length_le_of_afterName? {name text rest : Text}
    (found : afterName? name text = some rest) : rest.length ≤ text.length := by
  fun_induction afterName? name text with
  | case1 => cases found; exact Nat.le_refl _
  | case2 => cases found
  | case3 name character following inductionHypothesis =>
      exact Nat.le_succ_of_le (inductionHypothesis found)
  | case4 => cases found

theorem length_le_of_afterText? {fixed text rest : Text}
    (found : afterText? fixed text = some rest) : rest.length ≤ text.length := by
  fun_induction afterText? fixed text with
  | case1 => cases found; exact Nat.le_refl _
  | case2 => cases found
  | case3 character others following inductionHypothesis =>
      exact Nat.le_succ_of_le (inductionHypothesis found)
  | case4 => cases found

theorem length_le_of_afterFirst? {pattern : Text → Option Text} {text rest : Text}
    (shrinks : ∀ {text rest : Text}, pattern text = some rest → rest.length ≤ text.length)
    (found : afterFirst? pattern text = some rest) : rest.length ≤ text.length := by
  induction text with
  | nil =>
      unfold afterFirst? at found
      split at found
      · rename_i fits
        cases found
        exact shrinks fits
      · cases found
  | cons character following inductionHypothesis =>
      unfold afterFirst? at found
      split at found
      · rename_i fits
        cases found
        exact shrinks fits
      · exact Nat.le_succ_of_le (inductionHypothesis found)

theorem length_lt_of_afterChar? {last : Char} {text rest : Text}
    (found : afterChar? last text = some rest) : rest.length < text.length := by
  have dropped := (List.dropWhile_sublist (l := text) (· ≠ last)).length_le
  unfold afterChar? at found
  split at found
  · cases found
  · rename_i split
    rw [split, List.length_cons] at dropped
    cases found
    exact dropped

end Concordance.Html
