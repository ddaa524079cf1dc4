import Concordance.Json.Reader
import Concordance.Text.Digit
import Concordance.Text.Utf8

/-!
Contract: reading JSON strings.

Owns:
- escapes, surrogate pairs included;
- `quotation`, whose bytes must be well-formed UTF-8 and whose surrogates must be
  paired, and `looseQuotation`, which only looks for the end of the string.

Does not own: writing strings (`Concordance.Json.Text`).
-/

set_option autoImplicit false

namespace Concordance.Json

open Concordance.Text (hexDigitOfByte?)

/-- Reads four hexadecimal digits. All four have to be there before any of them is
looked at. -/
def codeUnit : Reader Nat
  | first :: second :: third :: fourth :: rest =>
      match hexDigitOfByte? first, hexDigitOfByte? second, hexDigitOfByte? third,
          hexDigitOfByte? fourth with
      | some a, some b, some c, some d =>
          .ok ⟨((a * 16 + b) * 16 + c) * 16 + d, rest, by
            simp only [List.length_cons]; omega⟩
      | _, _, _, _ => .error .malformed
  | _ => .error .unfinished

/-- Code units that begin a surrogate pair. -/
def isLeading (unit : Nat) : Bool := 0xD800 ≤ unit && unit ≤ 0xDBFF

/-- Code units that end a surrogate pair. -/
def isTrailing (unit : Nat) : Bool := 0xDC00 ≤ unit && unit ≤ 0xDFFF

/-- The bytes of a code point. -/
def codePointBytes (code : Nat) : Bytes := Utf8.encode [Char.ofNat code]

/-- Reads the second half of a pair whose first half is `leading`. -/
def secondHalf (leading : Nat) : Reader Bytes :=
  (Reader.exactWord 0x5C [0x75]).andThen fun _ =>
    codeUnit.refine fun unit =>
      if isTrailing unit then
        .ok (codePointBytes ((leading - 0xD800) * 0x400 + (unit - 0xDC00) + 0x10000))
      else .error .malformed

/-- Reads the digits of an escape by code units, the second half of a pair
included. -/
def codePoint : Reader Bytes := fun bytes =>
  match codeUnit bytes with
  | .error fault => .error fault
  | .ok unit =>
      if isTrailing unit.value then .error .malformed
      else if isLeading unit.value then
        match secondHalf unit.value unit.rest with
        | .error fault => .error fault
        | .ok pair => .ok (pair.within (Nat.le_of_lt unit.shorter))
      else .ok (unit.map codePointBytes)

/-- The byte that an escape by one letter stands for. -/
def escapedByte? (letter : UInt8) : Option UInt8 :=
  if letter = 0x22 || letter = 0x5C || letter = 0x2F then some letter
  else if letter = 0x62 then some 0x08
  else if letter = 0x66 then some 0x0C
  else if letter = 0x6E then some 0x0A
  else if letter = 0x72 then some 0x0D
  else if letter = 0x74 then some 0x09
  else none

/-- Reads what follows a backslash. Escapes by code units are left to `units`. -/
def escape (units : Reader Bytes) : Reader Bytes
  | [] => .error .unfinished
  | letter :: rest =>
      if letter = 0x75 then
        match units rest with
        | .error fault => .error fault
        | .ok taken => .ok (taken.behind letter)
      else
        match escapedByte? letter with
        | some byte => .ok (.one letter rest [byte])
        | none => .error .malformed

/-- Reads the rest of a string after its opening quote, closing quote included, as
the bytes it stands for. -/
def quotedBytes (units : Reader Bytes) (bytes : Bytes) : Except Fault (Taken bytes Bytes) :=
  match bytes with
  | [] => .error .unfinished
  | first :: rest =>
      if first = 0x22 then .ok (.one first rest [])
      else if first < 0x20 then .error .malformed
      else if first = 0x5C then
        match escape units rest with
        | .error fault => .error fault
        | .ok piece =>
            match quotedBytes units piece.rest with
            | .error fault => .error fault
            | .ok others =>
                .ok ⟨piece.value ++ others.value, others.rest,
                  Nat.lt_trans others.shorter (Nat.lt_succ_of_lt piece.shorter)⟩
      else
        match quotedBytes units rest with
        | .error fault => .error fault
        | .ok others =>
            .ok ⟨first :: others.value, others.rest, Nat.lt_succ_of_lt others.shorter⟩
termination_by bytes.length
decreasing_by
  · exact Nat.lt_succ_of_lt piece.shorter
  · exact Nat.lt_succ_self _

/-- Reads the rest of a string after its opening quote. -/
def quotation : Reader Text :=
  Reader.refine (quotedBytes codePoint) fun bytes =>
    match Utf8.decode? bytes with
    | some text => .ok text
    | none => .error .malformed

/-- Reads the rest of a string of which nothing is kept. -/
def looseQuotation : Reader Unit :=
  Reader.map (quotedBytes (codeUnit.map fun _ => [])) fun _ => ()

end Concordance.Json
