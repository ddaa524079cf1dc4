import Concordance.Html.Pattern

/-!
Contract: the targets of anchors.

An anchor is an opening bracket, the name `a` and, before the next closing bracket,
the name `href` at the beginning of a word, an equals sign and a value. The first
place inside the tag where all of this fits is taken.

Owns: the values of all anchors of a document.

Does not own: what targets lead to (`Concordance.Crawl.Link`).
-/

set_option autoImplicit false

namespace Concordance.Html

open Concordance.Text (isBlank isWordlike)

/-- Characters of a value that is not quoted. -/
def isUnquoted (character : Char) : Bool := !isBlank character && character ≠ '>'

/-- Takes a value that is not quoted off the front of a text. -/
def unquoted? (text : Text) : Option (Text × Text) :=
  match text.takeWhile isUnquoted with
  | [] => none
  | first :: others => some (first :: others, text.dropWhile isUnquoted)

/-- Takes the rest of a quoted value, after its opening quote, off the front of a
text. -/
def quoted? (quote : Char) (text : Text) : Option (Text × Text) :=
  (afterChar? quote text).map fun rest => (text.takeWhile (· ≠ quote), rest)

/-- Takes a value off the front of a text. A quote that is not closed belongs to a
value that is not quoted. -/
def value? (text : Text) : Option (Text × Text) :=
  match text with
  | [] => none
  | first :: rest =>
      if first = '"' || first = '\'' then
        match quoted? first rest with
        | some found => some found
        | none => unquoted? (first :: rest)
      else unquoted? (first :: rest)

/-- Takes the name `href`, an equals sign and a value off the front of a text. -/
def target? (text : Text) : Option (Text × Text) :=
  (afterName? "href" text).bind fun behind =>
    (afterText? "=" (behind.dropWhile isBlank)).bind fun value =>
      value? (value.dropWhile isBlank)

/-- The first target in the rest of a tag, with the text after it. `previous` is the
character before the text. -/
def targetInTag? (previous : Char) : Text → Option (Text × Text)
  | [] => none
  | character :: rest =>
      let here := if isWordlike previous then none else target? (character :: rest)
      match here with
      | some found => some found
      | none => if character = '>' then none else targetInTag? character rest

/-- The target of an anchor whose opening bracket precedes the text. -/
def anchor? (text : Text) : Option (Text × Text) :=
  (afterName? "a" text).bind fun rest =>
    if endsWord rest then targetInTag? 'a' rest else none

theorem length_le_of_unquoted? {text value rest : Text}
    (found : unquoted? text = some (value, rest)) : rest.length ≤ text.length := by
  unfold unquoted? at found
  split at found
  · cases found
  · cases found
    exact (List.dropWhile_sublist isUnquoted).length_le

theorem length_le_of_value? {text value rest : Text}
    (found : value? text = some (value, rest)) : rest.length ≤ text.length := by
  unfold value? at found
  split at found
  · cases found
  · split at found
    · split at found
      · rename_i closed
        cases found
        obtain ⟨following, quoted, same⟩ := Option.map_eq_some_iff.mp closed
        cases same
        exact Nat.le_succ_of_le (Nat.le_of_lt (length_lt_of_afterChar? quoted))
      · exact length_le_of_unquoted? found
    · exact length_le_of_unquoted? found

theorem length_le_of_target? {text value rest : Text}
    (found : target? text = some (value, rest)) : rest.length ≤ text.length := by
  obtain ⟨behind, named, assigned⟩ := Option.bind_eq_some_iff.mp found
  obtain ⟨following, equals, taken⟩ := Option.bind_eq_some_iff.mp assigned
  exact Nat.le_trans (length_le_of_value? taken)
    (Nat.le_trans (List.dropWhile_sublist isBlank).length_le
      (Nat.le_trans (length_le_of_afterText? equals)
        (Nat.le_trans (List.dropWhile_sublist isBlank).length_le
          (length_le_of_afterName? named))))

theorem length_le_of_targetInTag? {previous : Char} {text value rest : Text}
    (found : targetInTag? previous text = some (value, rest)) :
    rest.length ≤ text.length := by
  induction text generalizing previous with
  | nil => cases found
  | cons character following inductionHypothesis =>
      simp only [targetInTag?] at found
      split at found
      · rename_i here
        cases found
        split at here
        · cases here
        · exact length_le_of_target? here
      · split at found
        · cases found
        · exact Nat.le_succ_of_le (inductionHypothesis found)

theorem length_le_of_anchor? {text value rest : Text}
    (found : anchor? text = some (value, rest)) : rest.length ≤ text.length := by
  obtain ⟨following, named, inside⟩ := Option.bind_eq_some_iff.mp found
  split at inside
  · exact Nat.le_trans (length_le_of_targetInTag? inside) (length_le_of_afterName? named)
  · cases inside

/-- The targets of all anchors, as they are written. The search goes on behind each
target. -/
def targets (text : Text) : List Text :=
  match text with
  | [] => []
  | character :: rest =>
      if character = '<' then
        match _found : anchor? rest with
        | some (value, after) => value :: targets after
        | none => targets rest
      else targets rest
termination_by text.length
decreasing_by
  · exact Nat.lt_succ_of_le (length_le_of_anchor? _found)
  · exact Nat.lt_succ_self _
  · exact Nat.lt_succ_self _

end Concordance.Html
