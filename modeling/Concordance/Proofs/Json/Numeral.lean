import Concordance.Proofs.Json.Taking

/-!
Contract: written numbers are read back.

Owns:
- the digits of a decimal numeral;
- natural numbers, in front of everything that may stand behind a value.

Does not own: numbers with a sign, a fraction or an exponent.
-/

set_option autoImplicit false

namespace Concordance.Json

open Reader (Delimited Takes)

/-! ## Decimal numerals -/

/-- A row of digits is the shortest one that denotes a number. -/
structure Denotes (digits : Bytes) (value : Nat) : Prop where
  nonempty : digits ≠ []
  each : ∀ byte ∈ digits, isDigit byte = true
  denoted : digitsValue digits = value
  leading : 0 < value → digits.head? ≠ some 0x30
  zero : value = 0 → digits.length = 1

/-- A digit as a byte. -/
def digitByte (digit : Nat) : UInt8 := UInt8.ofNat (0x30 + digit)

theorem isDigit_digitByte : ∀ digit < 10, isDigit (digitByte digit) = true := by
  decide

theorem digitValue_digitByte : ∀ digit < 10, digitValue (digitByte digit) = digit := by
  decide

theorem encode_digitChar :
    ∀ digit < 10, Utf8.encode [Nat.digitChar digit] = [digitByte digit] := by
  decide

theorem denotes_digitByte {digit : Nat} (small : digit < 10) :
    Denotes [digitByte digit] digit where
  nonempty := List.cons_ne_nil _ _
  each := fun byte member => by
    rw [List.mem_singleton.mp member]
    exact isDigit_digitByte digit small
  denoted := by
    rw [digitsValue, List.foldl_cons, List.foldl_nil, digitValue_digitByte digit small]
    omega
  leading := fun positive first => by
    have same := congrArg UInt8.toNat (Option.some.inj first)
    rw [digitByte, UInt8.toNat_ofNat'] at same
    simp at same
    omega
  zero := fun _ => rfl

/-- One more digit multiplies a number by ten. -/
theorem Denotes.append {digits : Bytes} {value digit : Nat} (denotes : Denotes digits value)
    (positive : 0 < value) (small : digit < 10) :
    Denotes (digits ++ [digitByte digit]) (value * 10 + digit) where
  nonempty := List.append_ne_nil_of_left_ne_nil denotes.nonempty _
  each := fun byte member => by
    rcases List.mem_append.mp member with earlier | last
    · exact denotes.each byte earlier
    · exact (denotes_digitByte small).each byte last
  denoted := by
    have front := denotes.denoted
    rw [digitsValue] at front ⊢
    rw [List.foldl_append, front, List.foldl_cons, List.foldl_nil,
      digitValue_digitByte digit small]
  leading := fun _ => by
    obtain ⟨first, others, rfl⟩ := List.exists_cons_of_ne_nil denotes.nonempty
    exact denotes.leading positive
  zero := fun zero => by omega

theorem denotes_decimal (value : Nat) : Denotes (Utf8.encode (Text.decimal value)) value := by
  induction value using Nat.strongRecOn with
  | ind value inductionHypothesis =>
      unfold Text.decimal at inductionHypothesis ⊢
      by_cases small : value < 10
      · rw [Nat.toDigits_of_lt_base small, encode_digitChar value small]
        exact denotes_digitByte small
      · have last : value % 10 < 10 := Nat.mod_lt _ (by decide)
        have denotes := (inductionHypothesis (value / 10) (by omega)).append (by omega) last
        rw [Nat.toDigits_of_base_le (by decide) (by omega), Utf8.encode_append,
          encode_digitChar _ last]
        rwa [show value / 10 * 10 + value % 10 = value by omega] at denotes

/-! ## Reading digits -/

/-- No digit, point or letter of an exponent may stand behind a number. -/
theorem continues_eq_false {rest : Bytes} (delimited : Delimited rest) {next : UInt8}
    (member : next ∈ rest.head?) :
    isDigit next = false ∧ decide (next = 0x2E) = false ∧
      (decide (next = 0x65) || decide (next = 0x45)) = false := by
  rcases delimited next member with rfl | rfl | rfl <;> decide

theorem takeWhile_isDigit_append {digits rest : Bytes}
    (each : ∀ byte ∈ digits, isDigit byte = true)
    (ends : ∀ next ∈ rest.head?, isDigit next = false) :
    (digits ++ rest).takeWhile isDigit = digits ∧
      (digits ++ rest).dropWhile isDigit = rest := by
  rw [List.takeWhile_append_of_pos each, List.dropWhile_append_of_pos each]
  cases rest with
  | nil => exact ⟨List.append_nil _, rfl⟩
  | cons next behind =>
      have stops : ¬isDigit next = true := by
        rw [ends next rfl]
        decide
      rw [List.takeWhile_cons_of_neg stops, List.dropWhile_cons_of_neg stops, List.append_nil]
      exact ⟨rfl, rfl⟩

section Digits

variable {digits rest : Bytes} {value : Nat}

theorem takes_digitRow (denotes : Denotes digits value)
    (ends : ∀ next ∈ rest.head?, isDigit next = false) (atEnd : Fault) :
    (digitRow atEnd).Takes (digits ++ rest) digits rest := by
  obtain ⟨first, others, rfl⟩ := List.exists_cons_of_ne_nil denotes.nonempty
  obtain ⟨taken, left⟩ := takeWhile_isDigit_append
    (fun byte member => denotes.each byte (List.mem_cons_of_mem first member)) ends
  refine ⟨by simp only [List.length_append, List.length_cons]; omega, ?_⟩
  simp only [List.cons_append, digitRow, denotes.each first List.mem_cons_self, if_true, taken,
    left]

theorem takes_wholeRow (denotes : Denotes digits value)
    (ends : ∀ next ∈ rest.head?, isDigit next = false) (atEnd : Fault) :
    (wholeRow atEnd).Takes (digits ++ rest) digits rest := by
  refine (takes_digitRow denotes ends atEnd).refine (if_neg ?_)
  rw [Bool.and_eq_true, decide_eq_true_eq, decide_eq_true_eq]
  rintro ⟨zero, long⟩
  rcases Nat.eq_zero_or_pos value with isZero | positive
  · rw [denotes.zero isZero] at long
    exact absurd long (by decide)
  · exact denotes.leading positive zero

theorem takes_signedRow (denotes : Denotes digits value)
    (ends : ∀ next ∈ rest.head?, isDigit next = false) (atEnd : Fault) :
    (signedRow atEnd).Takes (digits ++ rest) (false, digits) rest := by
  obtain ⟨first, others, rfl⟩ := List.exists_cons_of_ne_nil denotes.nonempty
  have unsigned : first ≠ 0x2D := by
    rintro rfl
    exact absurd (denotes.each 0x2D List.mem_cons_self) (by decide)
  exact Takes.congr (if_neg unsigned) ((takes_wholeRow denotes ends atEnd).map (false, ·))

/-- Digits are read as a number without sign, fraction and exponent. -/
theorem takes_numeral (denotes : Denotes digits value) (delimited : Delimited rest)
    (atEnd : Fault) :
    (numeral atEnd).Takes (digits ++ rest) ⟨false, digits, none, none⟩ rest :=
  (((takes_signedRow denotes
    (fun _ member => (continues_eq_false delimited member).1) atEnd).optionally
      fun _ member => (continues_eq_false delimited member).2.1).optionally
        fun _ member => (continues_eq_false delimited member).2.2).map _

end Digits

theorem isBlank_eq_false {byte : UInt8} (digit : isDigit byte = true) :
    isBlank byte = false := by
  rw [← Bool.not_eq_true]
  intro blank
  simp only [isBlank, Bool.or_eq_true, decide_eq_true_eq] at blank
  rcases blank with ((rfl | rfl) | rfl) | rfl <;> exact absurd digit (by decide)

/-- Digits are taken as the natural number that they denote. -/
theorem takes_natural {digits rest : Bytes} {bound value : Nat} (denotes : Denotes digits value)
    (below : value < bound) (narrow : bound ≤ wholeBound) (delimited : Delimited rest) :
    (Reader.natural bound).Takes (digits ++ rest) value rest := by
  have whole : (Numeral.mk false digits none none).isWhole = true := by
    simp only [Numeral.isWhole, denotes.denoted, Option.isNone_none, Bool.and_self,
      Bool.true_and, decide_eq_true_eq]
    omega
  have ranged : (Numeral.mk false digits none none).inRange = true := by
    simp only [Numeral.inRange, whole, Bool.true_or]
  have natural : (Numeral.mk false digits none none).natural? = some value := by
    simp only [Numeral.natural?, whole, denotes.denoted, Bool.not_false, Bool.and_self, if_true]
  obtain ⟨first, others, rfl⟩ := List.exists_cons_of_ne_nil denotes.nonempty
  have digit : isDigit first = true := denotes.each first List.mem_cons_self
  refine Takes.afterNoBlanks ?_ (isBlank_eq_false digit)
  refine Takes.congr (if_pos (by rw [digit, Bool.or_true])) ?_
  refine (takes_numeral denotes delimited .unfinished).refine ?_
  simp only [ranged, natural, below, Bool.not_true, Bool.false_eq_true, if_false, if_true]

/-- A natural number below a bound is read back from its decimal numeral. -/
theorem recovers_natural {bound value : Nat} (below : value < bound)
    (narrow : bound ≤ wholeBound) :
    (Reader.natural bound).Recovers value (Utf8.encode (Text.decimal value)) := by
  have denotes := denotes_decimal value
  refine ⟨?_, fun rest delimited => takes_natural denotes below narrow delimited⟩
  obtain ⟨first, others, bytes⟩ := List.exists_cons_of_ne_nil denotes.nonempty
  have digit : isDigit first = true := denotes.each first (bytes ▸ List.mem_cons_self)
  refine ⟨first, others, bytes, isBlank_eq_false digit, ?_, ?_⟩
  · rintro rfl
    exact absurd digit (by decide)
  · rintro rfl
    exact absurd digit (by decide)

end Concordance.Json
