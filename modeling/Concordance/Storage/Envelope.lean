import Concordance.Storage.Checksum
import Concordance.Storage.Integer

/-!
Contract: the header of a binary index file.

A file is the four magic bytes, the two version bytes, the length of the payload
in eight bytes, its checksum in four bytes, and the payload.

Owns: putting a payload into an envelope, and the checks under which it is taken
out again.

Does not own: what the payload means (`Concordance.Storage.Packed`).
-/

set_option autoImplicit false

namespace Concordance.Storage.Envelope

/-- The bytes every binary index file begins with. -/
def magic : Bytes := [0x51, 0x52, 0x59, 0x58]

/-- The version that is written; only the first number is compared on reading. -/
def version : Nat × Nat := (1, 0)

/-- Number of bytes before the payload. -/
def headerLength : Nat := 18

/-- Why a payload cannot be taken out of an envelope. -/
inductive Fault where
  | truncated
  | unsupportedVersion (major minor : Nat)
  | lengthMismatch (expected found : Nat)
  | checksumMismatch
deriving DecidableEq, Repr

/-- Wording of a fault. -/
def Fault.message : Fault → Text
  | truncated => "Index file is truncated"
  | unsupportedVersion major minor =>
      Text.concat
        ["Unsupported index version: ", Text.decimal major, ".", Text.decimal minor]
  | lengthMismatch expected found =>
      Text.concat
        ["Index payload length mismatch: expected ", Text.decimal expected,
          ", found ", Text.decimal found]
  | checksumMismatch => "Index checksum mismatch"

/-- The file that holds a payload. -/
def wrap (payload : Bytes) : Bytes :=
  magic ++ [UInt8.ofNat version.1, UInt8.ofNat version.2]
    ++ Integer.littleEndian 8 payload.length
    ++ Integer.littleEndian 4 (Checksum.checksum payload).toNat
    ++ payload

/-- The payload of a file that begins with the magic bytes. -/
def unwrap (file : Bytes) : Except Fault Bytes :=
  if file.length < headerLength then .error .truncated
  else
    let major := ((file.drop 4).headD 0).toNat
    let minor := ((file.drop 5).headD 0).toNat
    let expected := Integer.ofLittleEndian ((file.drop 6).take 8)
    let check := Integer.ofLittleEndian ((file.drop 14).take 4)
    let payload := file.drop headerLength
    if major ≠ version.1 then .error (.unsupportedVersion major minor)
    else if payload.length ≠ expected then
      .error (.lengthMismatch expected payload.length)
    else if (Checksum.checksum payload).toNat ≠ check then .error .checksumMismatch
    else .ok payload

end Concordance.Storage.Envelope
