import Concordance.Text.Basic

/-!
Contract: labels whose characters beyond ASCII are written in letters and digits.

The ASCII characters of a label stand in front of its last hyphen. Behind it, numbers
tell in the order of their code points which other characters are inserted where. The
digits of a number end where one is below a threshold, and the thresholds follow the
size of the numbers so far.

Owns: `decode?`.

Does not own: which labels are written so (`Concordance.Url.Name`).
-/

set_option autoImplicit false

namespace Concordance.Url.Punycode

/-- Number of different digits. -/
def base : Nat := 36

/-- The largest number that is calculated with. -/
def largest : Nat := 0xFFFFFFFF

/-- The value of a digit. Letters come first. -/
def digit? (character : Char) : Option Nat :=
  if 'a' ≤ character && character ≤ 'z' then some (character.toNat - 0x61)
  else if 'A' ≤ character && character ≤ 'Z' then some (character.toNat - 0x41)
  else if character.isDigit then some (character.toNat - 0x30 + 26)
  else none

/-- Below which value the digit at a place is the last one. -/
def threshold (place bias : Nat) : Nat :=
  if place ≤ bias then 1 else if bias + 26 ≤ place then 26 else place - bias

/-- Divides a number until it is small, and counts the divisions in digits. -/
def damped (number : Nat) : Nat × Nat :=
  if 455 < number then
    let rest := damped (number / 35)
    (rest.1, rest.2 + base)
  else (number, 0)
termination_by number
decreasing_by exact Nat.div_lt_self (by omega) (by decide)

/-- The bias behind a number, of which `length` characters have been read. -/
def adapted (number length : Nat) (isFirst : Bool) : Nat :=
  let halved := if isFirst then number / 700 else number / 2
  let rest := damped (halved + halved / length)
  rest.2 + base * rest.1 / (rest.1 + 38)

/-- Adds a written number to `sum`, where a digit counts `weight` times at `place`. The
result comes with what is behind the number. -/
def number? (bias place weight sum : Nat) : Text → Option (Nat × Text)
  | [] => none
  | character :: rest =>
      match digit? character with
      | none => none
      | some value =>
          let sum := sum + value * weight
          let least := threshold place bias
          if largest < sum then none
          else if value < least then some (sum, rest)
          else if largest < weight * (base - least) then none
          else number? bias (place + base) (weight * (base - least)) sum rest

theorem length_lt_of_number? {bias place weight sum result : Nat} {text rest : Text}
    (found : number? bias place weight sum text = some (result, rest)) :
    rest.length < text.length := by
  fun_induction number? bias place weight sum text with
  | case1 => cases found
  | case2 => cases found
  | case3 => cases found
  | case4 =>
    simp only [Option.some.injEq, Prod.mk.injEq] at found
    simp [← found.2]
  | case5 => cases found
  | case6 =>
    rename_i inductionHypothesis
    exact Nat.lt_succ_of_lt (inductionHypothesis found)

/-- Inserts the characters that are written behind the last hyphen into `known` ones.
Numbers go on from `place`, which is behind the latest insertion, and from the code
point `code`, which was inserted there. -/
def insertions? (bias code place : Nat) (known : Text) (written : Text) : Option Text :=
  match written with
  | [] => some known
  | first :: rest =>
      match _read : number? bias base 1 place (first :: rest) with
      | none => none
      | some (sum, behind) =>
          let length := known.length + 1
          let next := code + sum / length
          if next.isValidChar then
            insertions? (adapted (sum - place) length (place = 0)) next (sum % length + 1)
              (known.insertIdx (sum % length) (Char.ofNat next)) behind
          else none
termination_by written.length
decreasing_by exact length_lt_of_number? _read

/-- The label that is written. A hyphen with nothing in front of it separates nothing. -/
def decode? (written : Text) : Option Text :=
  let behind := (written.reverse.takeWhile (· ≠ '-')).reverse
  let front := written.take (written.length - behind.length - 1)
  insertions? 72 0x80 0 front (if front.isEmpty then written else behind)

end Concordance.Url.Punycode
