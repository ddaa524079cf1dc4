import Concordance.Text.Basic

/-!
Contract: integers as bytes.

Owns:
- fixed-width integers, least significant byte first;
- variable-width integers: numbers below 251 are one byte, and the bytes 251, 252
  and 253 announce two, four and eight bytes.

Does not own: what the integers count.
-/

set_option autoImplicit false

namespace Concordance.Storage.Integer

/-- The lowest `count` bytes of a number, least significant first. -/
def littleEndian : Nat → Nat → Bytes
  | 0, _ => []
  | count + 1, value => UInt8.ofNat value :: littleEndian count (value / 256)

/-- The number whose bytes these are, least significant first. -/
def ofLittleEndian : Bytes → Nat
  | [] => 0
  | byte :: rest => byte.toNat + 256 * ofLittleEndian rest

/-- The number in the first `count` bytes, with the bytes after them. -/
def readFixed (count : Nat) (bytes : Bytes) : Option (Nat × Bytes) :=
  if count ≤ bytes.length then
    some (ofLittleEndian (bytes.take count), bytes.drop count)
  else none

/-- The width of a variable-width integer at most. -/
inductive Width where
  | fourBytes
  | eightBytes
deriving DecidableEq, Repr

/-- The shortest form of a number below 2^64. -/
def encode (value : Nat) : Bytes :=
  if value < 251 then [UInt8.ofNat value]
  else if value < 0x10000 then 251 :: littleEndian 2 value
  else if value < 0x100000000 then 252 :: littleEndian 4 value
  else 253 :: littleEndian 8 value

/-- Reads a number of at most the given width. A number may be written wider than
it needs, but not wider than `width`. -/
def decode (width : Width) : Bytes → Option (Nat × Bytes)
  | [] => none
  | marker :: rest =>
      if marker.toNat < 251 then some (marker.toNat, rest)
      else if marker = 251 then readFixed 2 rest
      else if marker = 252 then readFixed 4 rest
      else if marker = 253 ∧ width = .eightBytes then readFixed 8 rest
      else none

end Concordance.Storage.Integer
