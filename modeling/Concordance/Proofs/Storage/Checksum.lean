import Concordance.Storage.Checksum
import Mathlib.Data.Nat.Bitwise

/-!
Contract: no single byte can be changed without a change of the check.

The bit that is shifted out of the register is not lost: the topmost bit of the
polynomial is set, so that the topmost bit of the result shows which way was taken.
Feeding a byte is therefore injective in the register and in the byte, and once two
registers differ, no bytes fed into both make them equal again.

Owns:
- that the register is never confused, by one bit, by one byte and by many;
- that a byte string with one byte changed has another check.

Does not own: where the check is compared (`Concordance.Proofs.Storage.Corruption`).
-/

set_option autoImplicit false

namespace Concordance.Storage.Checksum

/-! ## One bit -/

theorem and_one_eq_one_iff (register : UInt32) :
    register &&& 1 = 1 ↔ register.toNat % 2 = 1 := by
  rw [← UInt32.toNat_inj, UInt32.toNat_and]
  show register.toNat &&& 1 = 1 ↔ _
  rw [Nat.and_one_is_mod]

theorem toNat_shiftBit (register : UInt32) :
    (shiftBit register).toNat = if register.toNat % 2 = 1
      then (register.toNat / 2) ^^^ polynomial.toNat else register.toNat / 2 := by
  have halved : (register >>> 1).toNat = register.toNat / 2 := by
    rw [UInt32.toNat_shiftRight]
    exact Nat.shiftRight_eq_div_pow _ 1
  unfold shiftBit
  simp only [and_one_eq_one_iff]
  split
  · rw [UInt32.toNat_xor, halved]
  · exact halved

/-- The topmost bit of the result tells which bit was shifted out. -/
theorem testBit_shiftBit (register : UInt32) :
    (shiftBit register).toNat.testBit 31 = decide (register.toNat % 2 = 1) := by
  have small : register.toNat / 2 < 2 ^ 31 := by
    have bound := register.toNat_lt
    omega
  have vacant : (register.toNat / 2).testBit 31 = false := Nat.testBit_lt_two_pow small
  have topmost : polynomial.toNat.testBit 31 = true := by decide
  rw [toNat_shiftBit]
  by_cases odd : register.toNat % 2 = 1
  · simp [odd, vacant, topmost]
  · simp [odd, vacant]

theorem shiftBit_injective : Function.Injective shiftBit := by
  intro first second same
  have numbers : (shiftBit first).toNat = (shiftBit second).toNat := congrArg _ same
  have parity : first.toNat % 2 = 1 ↔ second.toNat % 2 = 1 := by
    have bits := testBit_shiftBit first
    rw [numbers, testBit_shiftBit] at bits
    exact (decide_eq_decide.mp bits).symm
  rw [toNat_shiftBit, toNat_shiftBit] at numbers
  apply UInt32.toNat_inj.mp
  by_cases odd : first.toNat % 2 = 1
  · rw [if_pos odd, if_pos (parity.mp odd)] at numbers
    have halves := Nat.xor_left_inj.mp numbers
    have otherOdd := parity.mp odd
    omega
  · rw [if_neg odd, if_neg (mt parity.mpr odd)] at numbers
    have otherEven := mt parity.mpr odd
    omega

/-! ## Bytes -/

theorem shiftBits_injective (count : Nat) : Function.Injective (Nat.repeat shiftBit count) := by
  induction count with
  | zero => exact Function.injective_id
  | succ count inductionHypothesis => exact shiftBit_injective.comp inductionHypothesis

/-- Two registers stay different whatever byte is fed into both. -/
theorem feed_left_injective (byte : UInt8) : Function.Injective (feed · byte) := by
  intro first second same
  exact (UInt32.xor_left_inj _).mp (shiftBits_injective 8 same)

/-- Two bytes leave one register differently. -/
theorem feed_right_injective (register : UInt32) : Function.Injective (feed register) := by
  intro first second same
  exact UInt8.toUInt32_inj.mp ((UInt32.xor_right_inj _).mp (shiftBits_injective 8 same))

/-- Two registers stay different whatever bytes are fed into both. -/
theorem foldl_feed_injective (bytes : Bytes) :
    Function.Injective fun register => bytes.foldl feed register := by
  induction bytes with
  | nil => exact Function.injective_id
  | cons byte rest inductionHypothesis =>
      intro first second same
      apply feed_left_injective byte
      apply inductionHypothesis
      simpa only [List.foldl_cons] using same

/-! ## Byte strings -/

/-- Byte strings that differ in one byte have the same check only if they do not differ. -/
theorem checksum_inj_of_byte (front rest : Bytes) (byte other : UInt8) :
    checksum (front ++ byte :: rest) = checksum (front ++ other :: rest) ↔ byte = other := by
  constructor
  · intro same
    unfold checksum at same
    have registers := (UInt32.xor_left_inj _).mp same
    simp only [List.foldl_append, List.foldl_cons] at registers
    exact feed_right_injective _ (foldl_feed_injective rest registers)
  · rintro rfl
    rfl

/-- A changed byte shows in the check. -/
theorem checksum_set_inj (bytes : Bytes) (place : Nat) (byte : UInt8) :
    checksum (bytes.set place byte) = checksum bytes ↔ bytes.set place byte = bytes := by
  by_cases inside : place < bytes.length
  · have parts : bytes = bytes.take place ++ bytes[place] :: bytes.drop (place + 1) := by
      rw [← List.drop_eq_getElem_cons inside, List.take_append_drop]
    have changed : bytes.set place byte = bytes.take place ++ byte :: bytes.drop (place + 1) := by
      rw [List.set_eq_take_append_cons_drop, if_pos inside]
    generalize bytes.take place = front at parts changed
    generalize bytes.drop (place + 1) = rest at parts changed
    generalize bytes[place] = old at parts
    rw [changed, parts, checksum_inj_of_byte]
    simp
  · rw [List.set_eq_of_length_le (Nat.le_of_not_lt inside)]
    simp

end Concordance.Storage.Checksum
