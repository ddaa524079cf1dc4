import Concordance.Json.Reader

/-!
Contract: reading JSON numbers.

Owns:
- the written parts of a number;
- the range of numbers that are accepted at all, which is that of double-precision
  floating point;
- the natural number that a number without sign, fraction and exponent denotes.

Does not own: which numbers a document may hold (`Concordance.Storage.Document`).
-/

set_option autoImplicit false

namespace Concordance.Json

def isDigit (byte : UInt8) : Bool := 0x30 ≤ byte && byte ≤ 0x39

/-- The value of a digit. -/
def digitValue (byte : UInt8) : Nat := byte.toNat - 0x30

/-- The value of a row of digits. -/
def digitsValue (digits : Bytes) : Nat :=
  digits.foldl (fun value digit => value * 10 + digitValue digit) 0

/-- The exponent of a number with its sign. -/
structure Exponent where
  negative : Bool
  digits : Bytes
deriving DecidableEq, Repr

/-- A number as it is written. -/
structure Numeral where
  negative : Bool
  whole : Bytes
  fraction : Option Bytes
  exponent : Option Exponent
deriving DecidableEq, Repr

private theorem length_dropDigits_le (bytes : Bytes) :
    (bytes.dropWhile isDigit).length ≤ bytes.length :=
  (List.dropWhile_sublist isDigit).length_le

/-- Reads a row of digits. Bytes that end before the first one have the fault
`atEnd`. -/
def digitRow (atEnd : Fault) : Reader Bytes
  | [] => .error atEnd
  | first :: rest =>
      if isDigit first then
        .ok ⟨first :: rest.takeWhile isDigit, rest.dropWhile isDigit,
          Nat.lt_succ_of_le (length_dropDigits_le rest)⟩
      else .error .malformed

/-- Reads a row of digits that does not begin with a needless zero. -/
def wholeRow (atEnd : Fault) : Reader Bytes :=
  (digitRow atEnd).refine fun digits =>
    if digits.head? = some 0x30 && 1 < digits.length then .error .malformed
    else .ok digits

/-- Reads the whole part of a number and its sign. -/
def signedRow (atEnd : Fault) : Reader (Bool × Bytes)
  | [] => .error atEnd
  | first :: rest =>
      if first = 0x2D then
        match wholeRow atEnd rest with
        | .error fault => .error fault
        | .ok taken => .ok ((taken.map (true, ·)).behind first)
      else Reader.map (wholeRow atEnd) (false, ·) (first :: rest)

/-- Reads what follows the letter of an exponent. -/
def exponentRow (atEnd : Fault) : Reader Exponent
  | [] => .error atEnd
  | first :: rest =>
      if first = 0x2B || first = 0x2D then
        match digitRow atEnd rest with
        | .error fault => .error fault
        | .ok taken =>
            .ok ((taken.map (Exponent.mk (first = 0x2D) ·)).behind first)
      else Reader.map (digitRow atEnd) (Exponent.mk false ·) (first :: rest)

/-- Reads a number. Bytes that end where a digit is missing have the fault `atEnd`. -/
def numeral (atEnd : Fault) : Reader Numeral :=
  (((signedRow atEnd).optionally (· = 0x2E) (digitRow atEnd)).optionally
    (fun byte => byte = 0x65 || byte = 0x45) (exponentRow atEnd)).map
    fun parts => ⟨parts.1.1.1, parts.1.1.2, parts.1.2, parts.2⟩

/-! ## The range of numbers -/

/-- Whole numbers and significands stay below 2^64. -/
def wholeBound : Nat := 0x10000000000000000

/-- A number while its digits are collected: the significand, the power of ten it
is multiplied by, and whether the significand has no room for another digit. -/
structure Magnitude where
  significand : Nat
  power : Int
  full : Bool
deriving DecidableEq, Repr

namespace Magnitude

/-- The number nought. -/
def zero : Magnitude := ⟨0, 0, false⟩

/-- The magnitude with one more digit, if the significand stays below 2^64; `kept`
and `dropped` are what the digit adds to the power. -/
def push (kept dropped : Int) (magnitude : Magnitude) (digit : UInt8) : Magnitude :=
  let longer := magnitude.significand * 10 + digitValue digit
  if magnitude.full || wholeBound ≤ longer then
    { magnitude with power := magnitude.power + dropped, full := true }
  else { magnitude with significand := longer, power := magnitude.power + kept }

/-- The magnitude with a row of digits before the point. -/
def pushWhole (magnitude : Magnitude) (digits : Bytes) : Magnitude :=
  digits.foldl (push 0 1) magnitude

/-- The magnitude with a row of digits after the point, where a significand that
was full may take a smaller digit than the one it had no room for. -/
def pushFraction (magnitude : Magnitude) (digits : Bytes) : Magnitude :=
  digits.foldl (push (-1) 0) { magnitude with full := false }

end Magnitude

/-- The double-precision number nearest to a natural number; of two, the one with
the even significand. -/
def nearestDouble (value : Nat) : Nat :=
  if value < 1 <<< 53 then value
  else
    let unit := 1 <<< (value.log2 - 52)
    let below := value / unit
    let excess := 2 * (value % unit)
    if unit < excess || (excess = unit && below % 2 = 1) then (below + 1) * unit
    else below * unit

/-- The least natural number that is rounded to infinity. -/
def overflowBound : Nat := (1 <<< 1024) - (1 <<< 970)

/-- Whether a significand times a power of ten stays finite. -/
def isFinite (significand : Nat) (power : Int) : Bool :=
  significand = 0 || power < 0 ||
    (power ≤ 308 &&
      nearestDouble significand * nearestDouble (Nat.pow 10 power.toNat) < overflowBound)

namespace Numeral

/-- Whether a number is written without fraction and exponent and its digits stay
below 2^64. -/
def isWhole (numeral : Numeral) : Bool :=
  numeral.fraction.isNone && numeral.exponent.isNone
    && digitsValue numeral.whole < wholeBound

/-- The digits of a number. -/
def magnitude (numeral : Numeral) : Magnitude :=
  match numeral.fraction with
  | none => Magnitude.zero.pushWhole numeral.whole
  | some digits => (Magnitude.zero.pushWhole numeral.whole).pushFraction digits

/-- Whether the number stays finite. The digits of an exponent have to stay below
2^31 unless the number is nought or the exponent negative. -/
def inRange (numeral : Numeral) : Bool :=
  let magnitude := numeral.magnitude
  match numeral.exponent with
  | none => numeral.isWhole || isFinite magnitude.significand magnitude.power
  | some exponent =>
      let power : Int := digitsValue exponent.digits
      if 0x80000000 ≤ power then exponent.negative || magnitude.significand = 0
      else
        isFinite magnitude.significand
          (magnitude.power + if exponent.negative then -power else power)

/-- The natural number a numeral denotes, if it is written as one. -/
def natural? (numeral : Numeral) : Option Nat :=
  if numeral.isWhole && !numeral.negative then some (digitsValue numeral.whole)
  else none

end Numeral

end Concordance.Json
