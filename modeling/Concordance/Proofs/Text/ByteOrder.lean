import Concordance.Text.Utf8

/-!
Contract: texts in ascending order have ascending bytes.

Texts are compared character by character. UTF-8 keeps this order: the first byte of a
character tells how many there are, and grows with their number, and the bytes behind it
are the digits of the code point, the most significant one first.

Owns:
- the bytes of a character as the digits of its code point;
- the order of the bytes of characters and of texts.

Does not own: lists in ascending order.
-/

set_option autoImplicit false

namespace Concordance.Utf8

/-! ## Characters -/

/-- The first bytes decide if they differ. -/
theorem ofNat_cons_lt {first second : Nat} (less : first < second) (small : second < 0x100)
    (front back : Bytes) : UInt8.ofNat first :: front < UInt8.ofNat second :: back := by
  refine List.cons_lt_cons_iff.mpr (.inl (UInt8.lt_iff_toNat_lt.mpr ?_))
  rw [UInt8.toNat_ofNat', UInt8.toNat_ofNat']
  omega

/-- The digits of a code point to the base 64: the first one on top of the mark that tells
their number, each of the others in a byte of its own behind it. -/
def digits (mark : Nat) : Nat → Nat → Bytes
  | 0, code => [UInt8.ofNat (code + mark)]
  | count + 1, code => digits mark count (code / 64) ++ [UInt8.ofNat (code % 64 + 0x80)]

/-- The last digit decides if the digits before it agree. -/
theorem digits_append_lt {mark count code other : Nat} (less : code < other)
    (small : other / Nat.pow 64 count + mark < 0x100) (front back : Bytes) :
    digits mark count code ++ front < digits mark count other ++ back := by
  induction count generalizing code other front back with
  | zero =>
      rw [Nat.pow_eq, Nat.pow_zero, Nat.div_one] at small
      exact ofNat_cons_lt (by omega) small front back
  | succ count inductionHypothesis =>
      rw [digits, digits, List.append_assoc, List.append_assoc]
      rcases Nat.lt_or_eq_of_le (Nat.div_le_div_right (Nat.le_of_lt less)) with higher | equal
      · refine inductionHypothesis higher ?_ _ _
        rwa [Nat.div_div_eq_div_mul, Nat.mul_comm]
      · rw [equal]
        exact List.append_left_lt (ofNat_cons_lt (by omega) (by omega) front back)

theorem twoBytes_eq {code : Nat} (small : code < 0x800) :
    [UInt8.ofNat (code / 64 % 32 + 0xC0), UInt8.ofNat (code % 64 + 0x80)]
      = digits 0xC0 1 code := by
  rw [Nat.mod_eq_of_lt (by omega : code / 64 < 32)]
  rfl

theorem threeBytes_eq {code : Nat} (small : code < 0x10000) :
    [UInt8.ofNat (code / 4096 % 16 + 0xE0), UInt8.ofNat (code / 64 % 64 + 0x80),
        UInt8.ofNat (code % 64 + 0x80)]
      = digits 0xE0 2 code := by
  rw [show code / 4096 % 16 = code / 64 / 64 by omega]
  rfl

theorem fourBytes_eq {code : Nat} (small : code < 0x110000) :
    [UInt8.ofNat (code / 262144 % 8 + 0xF0), UInt8.ofNat (code / 4096 % 64 + 0x80),
        UInt8.ofNat (code / 64 % 64 + 0x80), UInt8.ofNat (code % 64 + 0x80)]
      = digits 0xF0 3 code := by
  rw [show code / 262144 % 8 = code / 64 / 64 / 64 by omega,
    show code / 4096 % 64 = code / 64 / 64 % 64 by omega]
  rfl

/-- A smaller character has smaller bytes, whatever follows. -/
theorem encodeChar_append_lt {first second : Char} (less : first < second)
    (front back : Bytes) :
    String.utf8EncodeChar first ++ front < String.utf8EncodeChar second ++ back := by
  obtain ⟨code, same⟩ : ∃ code, code = first.val.toNat := ⟨_, rfl⟩
  obtain ⟨other, otherSame⟩ : ∃ code, code = second.val.toNat := ⟨_, rfl⟩
  have below : code < other := by
    rw [same, otherSame]
    exact less
  have valid : other < 0xD800 ∨ 0xDFFF < other ∧ other < 0x110000 := otherSame ▸ second.valid
  unfold String.utf8EncodeChar
  rw [← same, ← otherSame]
  dsimp only
  by_cases one : code ≤ 0x7F
  · rw [if_pos one]
    repeat' split
    all_goals exact ofNat_cons_lt (by omega) (by omega) _ _
  rw [if_neg one, if_neg (by omega : ¬other ≤ 0x7F)]
  by_cases two : code ≤ 0x7FF
  · rw [if_pos two]
    split
    · rw [twoBytes_eq (by omega), twoBytes_eq (by omega)]
      exact digits_append_lt below (by show other / 64 + _ < _; omega) front back
    · split
      all_goals exact ofNat_cons_lt (by omega) (by omega) _ _
  rw [if_neg two, if_neg (by omega : ¬other ≤ 0x7FF)]
  by_cases three : code ≤ 0xFFFF
  · rw [if_pos three]
    split
    · rw [threeBytes_eq (by omega), threeBytes_eq (by omega)]
      exact digits_append_lt below (by show other / 4096 + _ < _; omega) front back
    · exact ofNat_cons_lt (by omega) (by omega) _ _
  · rw [if_neg three, if_neg (by omega : ¬other ≤ 0xFFFF)]
    rw [fourBytes_eq (by omega), fourBytes_eq (by omega)]
    exact digits_append_lt below (by show other / 262144 + _ < _; omega) front back

/-! ## Texts -/

/-- A smaller text has smaller bytes. -/
theorem encode_lt_of_compare {first second : Text} (less : compare first second = .lt) :
    encode first < encode second := by
  induction first generalizing second with
  | nil =>
      cases second with
      | nil => cases less
      | cons character rest =>
          obtain ⟨byte, others, bytes, _⟩ := readChar_encodeChar character (encode rest)
          rw [encode_cons, bytes]
          exact List.Lex.nil
  | cons character rest inductionHypothesis =>
      cases second with
      | nil => cases less
      | cons other others =>
          change List.compareLex compare (character :: rest) (other :: others) = .lt at less
          rw [List.compareLex_cons_cons] at less
          rw [encode_cons, encode_cons]
          rcases Ordering.then_eq_lt.mp less with smaller | ⟨equal, smaller⟩
          · exact encodeChar_append_lt (compareOfLessAndEq_eq_lt.mp smaller) _ _
          · rw [Std.LawfulEqOrd.eq_of_compare equal]
            exact List.append_left_lt (inductionHypothesis smaller)

end Concordance.Utf8
