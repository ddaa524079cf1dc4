import Concordance.Json.Text
import Concordance.Proofs.Json.Taking

/-!
Contract: written strings are read back.

A character of a string is written as itself, as an escape by one letter or as a code
unit. Each of the three is read back as the bytes of the character.

Owns:
- bytes that stand for themselves, and the escapes;
- whole strings.

Does not own: the escapes that are read but never written.
-/

set_option autoImplicit false

namespace Concordance.Json

open Concordance.Text (hexDigitOfByte?)

open Reader (Takes)

/-! ## Bytes -/

/-- Whether a byte stands for itself in a string. -/
def isPlain (byte : UInt8) : Bool := byte ≠ 0x22 && 0x20 ≤ byte && byte ≠ 0x5C

section Pieces

variable {units : Reader Bytes} {bytes rest value : Bytes}

theorem takes_quote (units : Reader Bytes) (rest : Bytes) :
    Takes (quotedBytes units) (0x22 :: rest) [] rest :=
  Reader.takes_one 0x22 rest (by rw [quotedBytes, if_pos rfl])

theorem takes_plain {byte : UInt8} (plain : isPlain byte = true)
    (taken : Takes (quotedBytes units) bytes value rest) :
    Takes (quotedBytes units) (byte :: bytes) (byte :: value) rest := by
  obtain ⟨shorter, read⟩ := taken
  refine ⟨Nat.lt_succ_of_lt shorter, ?_⟩
  simp only [isPlain, ne_eq, Bool.and_eq_true, decide_eq_true_eq, decide_not,
    Bool.not_eq_true', decide_eq_false_iff_not] at plain
  rw [quotedBytes, if_neg plain.1.1, if_neg (by simpa using plain.1.2), if_neg plain.2]
  simp only [read]

theorem takes_plains {front : Bytes} (plain : ∀ byte ∈ front, isPlain byte = true)
    (taken : Takes (quotedBytes units) bytes value rest) :
    Takes (quotedBytes units) (front ++ bytes) (front ++ value) rest := by
  induction front with
  | nil => exact taken
  | cons byte others inductionHypothesis =>
      exact takes_plain (plain byte List.mem_cons_self)
        (inductionHypothesis fun other member => plain other (List.mem_cons_of_mem _ member))

/-- An escape behind its backslash. -/
theorem takes_escaped {escaped piece : Bytes} (first : (escape units).Takes escaped piece bytes)
    (taken : Takes (quotedBytes units) bytes value rest) :
    Takes (quotedBytes units) (0x5C :: escaped) (piece ++ value) rest := by
  obtain ⟨shorter, read⟩ := first
  obtain ⟨later, readOthers⟩ := taken
  refine ⟨Nat.lt_trans later (Nat.lt_succ_of_lt shorter), ?_⟩
  rw [quotedBytes, if_neg (by decide), if_neg (by decide), if_pos rfl]
  simp only [read, readOthers]

theorem takes_letter {letter byte : UInt8} (known : escapedByte? letter = some byte)
    (rest : Bytes) : (escape units).Takes (letter :: rest) [byte] rest := by
  refine Reader.takes_one letter rest ?_
  have notUnits : letter ≠ 0x75 := by
    rintro rfl
    cases known
  rw [escape, if_neg notUnits]
  simp only [known]

theorem takes_units {piece : Bytes} (taken : units.Takes bytes piece rest) :
    (escape units).Takes (0x75 :: bytes) piece rest := by
  obtain ⟨shorter, read⟩ := taken
  refine ⟨Nat.lt_succ_of_lt shorter, ?_⟩
  rw [escape, if_pos rfl]
  simp only [read]
  rfl

end Pieces

/-! ## Characters -/

/-- A hexadecimal digit as a byte. -/
def hexByte (digit : Nat) : UInt8 := UInt8.ofNat (Nat.digitChar digit).toNat

theorem hexDigitOfByte?_hexByte : ∀ digit < 16, hexDigitOfByte? (hexByte digit) = some digit := by
  decide

theorem encodeChar_digitChar :
    ∀ digit < 16, String.utf8EncodeChar (Nat.digitChar digit) = [hexByte digit] := by
  decide

/-- A code unit below thirty-two is the code point it stands for. -/
theorem takes_codePoint {code : Nat} (small : code < 0x20) (rest : Bytes) :
    codePoint.Takes (0x30 :: 0x30 :: hexByte (code / 16) :: hexByte (code % 16) :: rest)
      (codePointBytes code) rest := by
  have unit : codeUnit.Takes
      (0x30 :: 0x30 :: hexByte (code / 16) :: hexByte (code % 16) :: rest) code rest := by
    refine ⟨by simp only [List.length_cons]; omega, ?_⟩
    have zero : hexDigitOfByte? 0x30 = some 0 := rfl
    have value : ((0 * 16 + 0) * 16 + code / 16) * 16 + code % 16 = code := by omega
    simp only [codeUnit, zero, hexDigitOfByte?_hexByte (code / 16) (by omega),
      hexDigitOfByte?_hexByte (code % 16) (by omega), value]
  obtain ⟨shorter, read⟩ := unit
  refine ⟨shorter, ?_⟩
  have notTrailing : isTrailing code = false := by
    simp only [isTrailing, Bool.and_eq_false_iff, decide_eq_false_iff_not]
    omega
  have notLeading : isLeading code = false := by
    simp only [isLeading, Bool.and_eq_false_iff, decide_eq_false_iff_not]
    omega
  simp only [codePoint, read, notTrailing, notLeading]
  rfl

theorem isPlain_of_ne {byte : UInt8} (notQuote : byte.toNat ≠ 0x22)
    (printable : 0x20 ≤ byte.toNat) (notBackslash : byte.toNat ≠ 0x5C) :
    isPlain byte = true := by
  rw [isPlain, Bool.and_eq_true, Bool.and_eq_true]
  refine ⟨⟨decide_eq_true ?_, decide_eq_true ?_⟩, decide_eq_true ?_⟩
  · rintro rfl
    exact notQuote rfl
  · exact UInt8.le_iff_toNat_le.mpr printable
  · rintro rfl
    exact notBackslash rfl

theorem isPlain_of_mem_encodeChar {character : Char} (notQuote : character ≠ '"')
    (notBackslash : character ≠ '\\') (printable : 0x20 ≤ character.toNat) {byte : UInt8}
    (member : byte ∈ String.utf8EncodeChar character) : isPlain byte = true := by
  by_cases ascii : character.toNat < 0x80
  · rw [Utf8.encodeChar_of_lt ascii, List.mem_singleton] at member
    have code : byte.toNat = character.toNat := by
      rw [member, UInt8.toNat_ofNat']
      omega
    rw [ne_eq, ← Char.toNat_inj] at notQuote notBackslash
    exact isPlain_of_ne (code ▸ notQuote) (code ▸ printable) (code ▸ notBackslash)
  · have beyond := Utf8.le_of_mem_encodeChar (Nat.le_of_not_lt ascii) member
    exact isPlain_of_ne (by omega) (by omega) (by omega)

section Characters

variable {bytes value rest : Bytes}

theorem encode_short {letter : Char} (ascii : letter.toNat < 0x80) :
    Utf8.encode ['\\', letter] = [0x5C, UInt8.ofNat letter.toNat] := by
  rw [Utf8.encode_cons, Utf8.encode_cons, Utf8.encodeChar_of_lt ascii]
  rfl

theorem takes_short {character letter : Char} (ascii : letter.toNat < 0x80)
    (asciiToo : character.toNat < 0x80)
    (known : escapedByte? (UInt8.ofNat letter.toNat) = some (UInt8.ofNat character.toNat))
    (taken : Takes (quotedBytes codePoint) bytes value rest) :
    Takes (quotedBytes codePoint) (Utf8.encode ['\\', letter] ++ bytes)
      (String.utf8EncodeChar character ++ value) rest := by
  rw [encode_short ascii, Utf8.encodeChar_of_lt asciiToo]
  exact takes_escaped (takes_letter known bytes) taken

theorem encode_control {code : Nat} (control : code < 0x20) :
    Utf8.encode ['\\', 'u', '0', '0', Nat.digitChar (code / 16), Nat.digitChar (code % 16)]
      = [0x5C, 0x75, 0x30, 0x30, hexByte (code / 16), hexByte (code % 16)] := by
  simp only [Utf8.encode_cons, encodeChar_digitChar (code / 16) (by omega),
    encodeChar_digitChar (code % 16) (by omega)]
  rfl

theorem takes_control {character : Char} (control : character.toNat < 0x20)
    (taken : Takes (quotedBytes codePoint) bytes value rest) :
    Takes (quotedBytes codePoint)
      (Utf8.encode ['\\', 'u', '0', '0', Nat.digitChar (character.toNat / 16),
        Nat.digitChar (character.toNat % 16)] ++ bytes)
      (String.utf8EncodeChar character ++ value) rest := by
  have bytesOf : codePointBytes character.toNat = String.utf8EncodeChar character := by
    rw [codePointBytes, Char.ofNat_toNat, Utf8.encode_cons]
    exact List.append_nil _
  rw [encode_control control, ← bytesOf]
  exact takes_escaped (takes_units (takes_codePoint control bytes)) taken

/-- Every character is read back as its bytes. -/
theorem takes_escapedChar (character : Char)
    (taken : Takes (quotedBytes codePoint) bytes value rest) :
    Takes (quotedBytes codePoint) (Utf8.encode (escapedChar character) ++ bytes)
      (String.utf8EncodeChar character ++ value) rest := by
  unfold escapedChar
  -- Seven characters have a letter of their own.
  iterate 7
    split
    · rename_i same
      subst same
      exact takes_short (by decide) (by decide) (by decide) taken
  split
  · rename_i control
    exact takes_control control taken
  · rename_i notQuote notBackslash _ _ _ _ _ printable
    rw [Utf8.encode_cons, Utf8.encode, List.flatMap_nil, List.append_nil]
    exact takes_plains (fun byte => isPlain_of_mem_encodeChar notQuote notBackslash
      (Nat.le_of_not_lt printable)) taken

end Characters

/-! ## Strings -/

theorem takes_quotedBytes (text : Text) (rest : Bytes) :
    Takes (quotedBytes codePoint) (Utf8.encode (text.flatMap escapedChar) ++ 0x22 :: rest)
      (Utf8.encode text) rest := by
  induction text with
  | nil => exact takes_quote codePoint rest
  | cons character others inductionHypothesis =>
      rw [List.flatMap_cons, Utf8.encode_append, List.append_assoc, Utf8.encode_cons]
      exact takes_escapedChar character inductionHypothesis

theorem encode_string_append (name : Text) (rest : Bytes) :
    Utf8.encode (string name) ++ rest
      = 0x22 :: (Utf8.encode (name.flatMap escapedChar) ++ 0x22 :: rest) := by
  rw [string, List.cons_append, Utf8.encode_cons, Utf8.encode_append, List.append_assoc,
    List.append_assoc]
  rfl

/-- A string is read back, whatever characters it has. -/
theorem takes_memberName (name : Text) (rest : Bytes) :
    memberName.Takes (Utf8.encode (string name) ++ rest) name rest := by
  rw [encode_string_append]
  refine (Reader.takes_exactly 0x22 _).andThen ((takes_quotedBytes name rest).refine ?_)
  rw [Utf8.decode?_encode]

end Concordance.Json
