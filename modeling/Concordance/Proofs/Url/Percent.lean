import Concordance.Crawl.Link
import Concordance.Proofs.Disk.Tree
import Mathlib.Data.Set.Function

/-!
Contract: names in file URLs.

A byte that is not written as itself is written as a percent sign and two digits, and so
are the percent sign and the slash. That is why a name can be read back from its segment,
and a path from the segments of its URL.

Owns:
- what `decode` does with one written byte, whatever follows;
- the names and the paths that URLs keep apart.

Does not own: which written URLs lead to a path (`Concordance.Url.Reference`).
-/

set_option autoImplicit false

namespace Concordance.Url

namespace Percent

/-! ## Reading one byte -/

theorem isPlain_sign : isPlain 0x25 = false := by decide

/-- A capital digit is one byte, and that byte has the value of the digit. -/
theorem capitalDigit_spec : ∀ value < 16,
    (capitalDigit value).toNat < 0x80 ∧
      Text.hexDigitOfByte? (UInt8.ofNat (capitalDigit value).toNat) = some value ∧
        capitalDigit value ≠ '/' := by
  decide +kernel

theorem decodeBytes_cons_of_ne {first : UInt8} (notSign : first ≠ 0x25) (rest : Bytes) :
    decodeBytes (first :: rest) = first :: decodeBytes rest := by
  have none : escape? (first :: rest) = none := by
    unfold escape?
    split
    · rename_i shape
      cases shape
      rw [if_neg notSign]
    · rfl
  rw [decodeBytes]
  split
  · rename_i found
    rw [none] at found
    cases found
  · rfl

theorem decodeBytes_escape {high low : UInt8} {sixteens ones : Nat}
    (first : Text.hexDigitOfByte? high = some sixteens) (second : Text.hexDigitOfByte? low = some ones) (rest : Bytes) :
    decodeBytes (0x25 :: high :: low :: rest)
      = UInt8.ofNat (sixteens * 16 + ones) :: decodeBytes rest := by
  have escaped : escape? (0x25 :: high :: low :: rest)
      = some (UInt8.ofNat (sixteens * 16 + ones), rest) := by
    rw [escape?, if_pos rfl, first, second]
  rw [decodeBytes]
  split
  · rename_i found
    rw [escaped] at found
    cases found
    rfl
  · rename_i found
    rw [escaped] at found
    cases found

theorem encode_singleton {character : Char} (ascii : character.toNat < 0x80) :
    Utf8.encode [character] = [UInt8.ofNat character.toNat] := by
  rw [Utf8.encode_cons, Utf8.encodeChar_of_lt ascii]
  rfl

theorem toNat_lt_of_isPlain {byte : UInt8} (plain : isPlain byte = true) :
    byte.toNat < 0x7F := by
  simp only [isPlain, Bool.and_eq_true, decide_eq_true_eq] at plain
  exact plain.1.2

theorem toNat_ofNat_of_isPlain {byte : UInt8} (plain : isPlain byte = true) :
    (Char.ofNat byte.toNat).toNat = byte.toNat := by
  have bound := toNat_lt_of_isPlain plain
  have isValid : byte.toNat.isValidChar := .inl (by omega)
  rw [Char.ofNat, dif_pos isValid]
  rfl

/-- A byte is read back from its written form. -/
theorem decodeBytes_encodeByte (byte : UInt8) (rest : Bytes) :
    decodeBytes (Utf8.encode (encodeByte byte) ++ rest) = byte :: decodeBytes rest := by
  have small := byte.toNat_lt
  unfold encodeByte
  by_cases plain : isPlain byte = true
  · have bound := toNat_lt_of_isPlain plain
    have value := toNat_ofNat_of_isPlain plain
    have notSign : byte ≠ 0x25 := by
      rintro rfl
      rw [isPlain_sign] at plain
      cases plain
    rw [if_pos plain, encode_singleton (by omega), value, UInt8.ofNat_toNat,
      List.singleton_append]
    exact decodeBytes_cons_of_ne notSign rest
  · obtain ⟨highAscii, high, _⟩ := capitalDigit_spec (byte.toNat / 16) (by omega)
    obtain ⟨lowAscii, low, _⟩ := capitalDigit_spec (byte.toNat % 16) (by omega)
    have whole : byte.toNat / 16 * 16 + byte.toNat % 16 = byte.toNat := by omega
    rw [if_neg plain, Utf8.encode_cons, Utf8.encode_cons, encode_singleton lowAscii,
      Utf8.encodeChar_of_lt highAscii]
    refine (decodeBytes_escape high low rest).trans ?_
    rw [whole, UInt8.ofNat_toNat]

/-! ## Names -/

/-- A name is read back from its segment. -/
theorem decode_encode (name : Bytes) : decode (encode name) = name := by
  unfold decode
  induction name with
  | nil =>
      rw [encode, List.flatMap_nil, Utf8.encode, List.flatMap_nil, decodeBytes]
  | cons byte others inductionHypothesis =>
      rw [encode, List.flatMap_cons, Utf8.encode_append, decodeBytes_encodeByte]
      exact congrArg (byte :: ·) inductionHypothesis

theorem encode_injective : Function.Injective encode :=
  Function.LeftInverse.injective decode_encode

/-- No byte is written with a slash. -/
theorem slash_notMem_encodeByte (byte : UInt8) : '/' ∉ encodeByte byte := by
  have small := byte.toNat_lt
  unfold encodeByte
  by_cases plain : isPlain byte = true
  · rw [if_pos plain, List.mem_singleton]
    intro slash
    -- The slash is one of the characters that are escaped.
    simp only [isPlain, ← slash, Bool.and_eq_true] at plain
    exact absurd plain.2 (by decide)
  · obtain ⟨_, _, high⟩ := capitalDigit_spec (byte.toNat / 16) (by omega)
    obtain ⟨_, _, low⟩ := capitalDigit_spec (byte.toNat % 16) (by omega)
    rw [if_neg plain]
    simp [high.symm, low.symm]

theorem slash_notMem_encode (name : Bytes) : '/' ∉ encode name := by
  intro member
  obtain ⟨byte, _, written⟩ := List.mem_flatMap.mp member
  exact slash_notMem_encodeByte byte written

end Percent

/-! ## Paths -/

theorem render_injOn : Set.InjOn render {segments | ∀ segment ∈ segments, '/' ∉ segment} := by
  intro segments free others otherFree same
  have paths : (segments.flatMap fun segment => '/' :: segment)
      = others.flatMap fun segment => '/' :: segment := List.append_cancel_left same
  have parts : [] :: segments = [] :: others :=
    calc
      [] :: segments = ([] ++ segments.flatMap fun segment => '/' :: segment).splitOn '/' :=
        (Disk.splitOn_flatMap_cons free List.not_mem_nil).symm
      _ = ([] ++ others.flatMap fun segment => '/' :: segment).splitOn '/' := by rw [paths]
      _ = [] :: others := Disk.splitOn_flatMap_cons otherFree List.not_mem_nil
  exact (List.cons.inj parts).2

end Url

namespace Crawl

open Concordance.Disk (Path)

theorem ofNames_of_ne_nil {path : Path} (nonempty : path ≠ []) :
    Url.ofNames path = path.map Url.Percent.encode :=
  if_neg (by simpa using nonempty)

/-- Two paths below the topmost directory have the same key only if they are the same. -/
theorem key_injOn : Set.InjOn key {path | path ≠ []} := by
  have free : ∀ path : Path, ∀ segment ∈ path.map Url.Percent.encode, '/' ∉ segment := by
    intro path segment member
    obtain ⟨name, _, rfl⟩ := List.mem_map.mp member
    exact Url.Percent.slash_notMem_encode name
  intro path nonempty other otherNonempty same
  rw [key, key, ofNames_of_ne_nil nonempty, ofNames_of_ne_nil otherNonempty] at same
  have names := Url.render_injOn (free path) (free other) same
  exact List.map_injective_iff.mpr Url.Percent.encode_injective names

end Crawl

end Concordance
