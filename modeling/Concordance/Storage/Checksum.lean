import Concordance.Text.Basic

/-!
Contract: the 32-bit cyclic redundancy check.

Owns: the check with the reflected polynomial `0xEDB88320`, all bits set at the
start and inverted at the end.

Does not own: where the check is stored (`Concordance.Storage.Envelope`).
-/

set_option autoImplicit false

namespace Concordance.Storage.Checksum

/-- The reflected polynomial. -/
def polynomial : UInt32 := 0xEDB88320

/-- One bit is shifted out, and the polynomial is added if the bit was set. -/
def shiftBit (register : UInt32) : UInt32 :=
  if register &&& 1 = 1 then (register >>> 1) ^^^ polynomial else register >>> 1

/-- One byte is fed into the register. -/
def feed (register : UInt32) (byte : UInt8) : UInt32 :=
  Nat.repeat shiftBit 8 (register ^^^ byte.toUInt32)

/-- The check of a byte string. -/
def checksum (bytes : Bytes) : UInt32 :=
  bytes.foldl feed 0xFFFFFFFF ^^^ 0xFFFFFFFF

end Concordance.Storage.Checksum
