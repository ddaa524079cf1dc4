import Concordance.Text.LowerCase

/-!
Contract: the words of a text.

A word is a maximal run of letters, in lower case. Everything else separates
words and takes up no position.

Owns: the words of a text with their ordinals and byte offsets.

Does not own: words of a query, which come with operators
(`Concordance.Query.Token`).
-/

set_option autoImplicit false

namespace Concordance.Text

/-- One word of a text: its lower-case form, its ordinal from zero, and the byte
offsets at which its letters start and stop. -/
structure Word where
  text : Text
  position : Nat
  start : Nat
  stop : Nat
deriving DecidableEq, Repr

/-- The words of `text`, whose first byte has number `offset` and whose first
word has ordinal `position`. -/
def wordsFrom (position offset : Nat) (text : Text) : List Word :=
  match found : text.dropWhile (fun character => !isLetter character) with
  | [] => []
  | letter :: rest =>
      let start := offset + width (text.takeWhile fun character => !isLetter character)
      let run := letter :: rest.takeWhile isLetter
      let stop := start + width run
      ⟨lowerCase run, position, start, stop⟩
        :: wordsFrom (position + 1) stop (rest.dropWhile isLetter)
termination_by text.length
decreasing_by
  have skipped := (List.dropWhile_sublist (l := text)
    (fun character => !isLetter character)).length_le
  have run := (List.dropWhile_sublist (l := rest) isLetter).length_le
  rw [found] at skipped
  simp only [List.length_cons] at skipped
  omega

/-- The words of a text in order. -/
def words (text : Text) : List Word := wordsFrom 0 0 text

/-- The name under which this way of cutting words is known. -/
def wordScheme : Text := "letter_run"

end Concordance.Text
