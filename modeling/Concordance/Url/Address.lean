import Concordance.Text.Digit

/-!
Contract: addresses of hosts in numbers.

Owns:
- addresses of up to four numbers, which are decimal, octal or hexadecimal;
- addresses of eight hexadecimal pieces, some of which can be left out or be written as
  four decimal numbers.

Does not own: names of hosts (`Concordance.Url.Name`).
-/

set_option autoImplicit false

namespace Concordance.Url.Address

/-- The value of a numeral, which may be empty. -/
def value? (radix : Nat) (digits : Text) : Option Nat :=
  digits.foldlM (fun value character =>
    match Text.hexDigit? character with
    | some digit => if digit < radix then some (value * radix + digit) else none
    | none => none) 0

/-- The value of a part of an address. A zero in front makes it octal, and an `x` behind
that hexadecimal. -/
def part? (text : Text) : Option Nat :=
  match text with
  | [] => none
  | '0' :: 'x' :: digits => value? 16 digits
  | '0' :: 'X' :: digits => value? 16 digits
  | '0' :: next :: digits => value? 8 (next :: digits)
  | digits => value? 10 digits

/-- The parts of a name, without an empty one at its end. -/
def partsOf (name : Text) : List Text :=
  let parts := name.splitOn '.'
  if 1 < parts.length && parts.getLast? = some [] then parts.dropLast else parts

/-- Whether a name is meant to be an address: its last part is a number. -/
def isMeant (name : Text) : Bool :=
  match (partsOf name).getLast? with
  | none => false
  | some last => (!last.isEmpty && last.all Char.isDigit) || (part? last).isSome

/-- Whether a name is an address of four bytes. The last part stands for all bytes that
are left. -/
def isShort (name : Text) : Bool :=
  let parts := partsOf name
  match parts.mapM part? with
  | none => false
  | some numbers =>
      match numbers.reverse with
      | [] => false
      | last :: others =>
          others.length < 4 && others.all (· < 256)
            && last < 1 <<< (8 * (4 - others.length))

/-- Whether a text is four decimal numbers below 256 without needless zeros, with dots
between them. -/
def isDotted (text : Text) : Bool :=
  let parts := text.splitOn '.'
  let isByte (part : Text) : Bool :=
    match part with
    | [] => false
    | ['0'] => true
    | first :: _ =>
        first ≠ '0' && part.all Char.isDigit
          && ((value? 10 part).map fun value => decide (value < 256)).getD false
  parts.length = 4 && parts.all isByte

/-- Whether a text is a piece of up to four hexadecimal digits. -/
def isPiece (text : Text) : Bool :=
  !text.isEmpty && text.length ≤ 4 && text.all Text.isHexDigit

/-- Number of pieces that a text with colons consists of. At the end of an address, the
last one may be four decimal numbers, which count twice. -/
def pieces? (isLast : Bool) (text : Text) : Option Nat :=
  if text.isEmpty then some 0
  else
    let parts := text.splitOn ':'
    match parts.getLast? with
    | none => none
    | some last =>
        if parts.all isPiece then some parts.length
        else if isLast && parts.dropLast.all isPiece && isDotted last then
          some (parts.length + 1)
        else none

/-- The texts around the first two colons that follow each other. -/
def aroundGap? : Text → Option (Text × Text)
  | ':' :: ':' :: rest => some ([], rest)
  | character :: rest =>
      (aroundGap? rest).map fun (front, behind) => (character :: front, behind)
  | [] => none

/-- Whether a text is an address of eight pieces. Two colons stand for one or more pieces
that are zero. -/
def isLong (text : Text) : Bool :=
  match aroundGap? text with
  | none => pieces? true text = some 8
  | some (front, behind) =>
      match pieces? false front, pieces? true behind with
      | some left, some right => left + right ≤ 7
      | _, _ => false

end Concordance.Url.Address
