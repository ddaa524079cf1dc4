import Concordance.Text.Digit
import Concordance.Text.Utf8

/-!
Contract: percent-encoding of path segments.

Owns:
- which bytes of a name stand for themselves in a segment;
- `encode`, and `decode`, which takes a percent sign that begins no escape for
  itself.

Does not own: how segments form a path (`Concordance.Url.Trail`).
-/

set_option autoImplicit false

namespace Concordance.Url.Percent

/-- Printable ASCII characters that are escaped in a segment. -/
def reserved : List Char :=
  [' ', '"', '#', '%', '/', '<', '>', '?', '\\', '`', '\x7b', '\x7d']

/-- Whether a byte stands for itself in a segment. -/
def isPlain (byte : UInt8) : Bool :=
  0x20 ≤ byte && byte < 0x7F && !reserved.contains (Char.ofNat byte.toNat)

/-- The value of a digit below sixteen as a capital digit. -/
def capitalDigit (value : Nat) : Char := (Nat.digitChar value).toUpper

/-- A byte as it stands in a segment. -/
def encodeByte (byte : UInt8) : Text :=
  if isPlain byte then [Char.ofNat byte.toNat]
  else ['%', capitalDigit (byte.toNat / 16), capitalDigit (byte.toNat % 16)]

/-- The segment that stands for a name. -/
def encode (name : Bytes) : Text := name.flatMap encodeByte

/-- The byte that a percent sign and two digits stand for, with the bytes behind
them. -/
def escape? : Bytes → Option (UInt8 × Bytes)
  | sign :: high :: low :: rest =>
      if sign = 0x25 then
        match Text.hexDigitOfByte? high, Text.hexDigitOfByte? low with
        | some sixteens, some ones => some (UInt8.ofNat (sixteens * 16 + ones), rest)
        | _, _ => none
      else none
  | _ => none

theorem length_lt_of_escape? {bytes rest : Bytes} {byte : UInt8}
    (found : escape? bytes = some (byte, rest)) : rest.length < bytes.length := by
  unfold escape? at found
  split at found
  · split at found
    · split at found
      · cases found; simp only [List.length_cons]; omega
      · cases found
    · cases found
  · cases found

/-- The bytes with every escape replaced by the byte it stands for. -/
def decodeBytes (bytes : Bytes) : Bytes :=
  match bytes with
  | [] => []
  | first :: rest =>
      match _found : escape? (first :: rest) with
      | some (byte, after) => byte :: decodeBytes after
      | none => first :: decodeBytes rest
termination_by bytes.length
decreasing_by
  · exact length_lt_of_escape? _found
  · exact Nat.lt_succ_self _

/-- The name that a segment stands for. -/
def decode (segment : Text) : Bytes := decodeBytes (Utf8.encode segment)

end Concordance.Url.Percent
