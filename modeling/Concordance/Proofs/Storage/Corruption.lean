import Concordance.Proofs.Json.Refusing
import Concordance.Proofs.Storage.Checksum
import Concordance.Proofs.Storage.Document

/-!
Contract: a binary index file with one byte changed is refused.

Every part of the header is compared with something: the magic bytes and the first
number of the version with constants, the length and the check with the payload. A
changed byte makes one of these comparisons fail, in the payload because its check
changes. The second number of the version is the only byte that nothing depends on.

Owns:
- the fault of a file with one byte changed, part by part;
- that all such files are refused but those that differ in the second number of the
  version.

Does not own: files that are cut off or too long (`Concordance.Proofs.Storage.Cutting`).
-/

set_option autoImplicit false

namespace Concordance.Storage

/-! ## Changed bytes -/

theorem set_ne_self {bytes : Bytes} {place : Nat} {byte : UInt8}
    (inside : place < bytes.length) (changed : byte ≠ bytes[place]) :
    bytes.set place byte ≠ bytes := by
  intro same
  apply changed
  have bound : place < (bytes.set place byte).length := by rwa [List.length_set]
  calc
    byte = (bytes.set place byte)[place] := (List.getElem_set_self bound).symm
    _ = bytes[place] := by simp only [same]

/-- A byte of the middle part is changed there. -/
theorem set_middle (front : Bytes) {part : Bytes} {offset : Nat} (inside : offset < part.length)
    (back : Bytes) (byte : UInt8) :
    (front ++ part ++ back).set (front.length + offset) byte
      = front ++ part.set offset byte ++ back := by
  rw [List.append_assoc, List.set_append_right _ _ (Nat.le_add_right _ _),
    Nat.add_sub_cancel_left, List.set_append_left _ _ inside, List.append_assoc]

theorem Integer.ofLittleEndian_inj {first second : Bytes}
    (lengths : first.length = second.length) :
    ofLittleEndian first = ofLittleEndian second ↔ first = second := by
  constructor
  · intro same
    induction first generalizing second with
    | nil => exact (List.eq_nil_of_length_eq_zero lengths.symm).symm
    | cons byte rest inductionHypothesis =>
        obtain ⟨other, others, rfl⟩ := List.exists_cons_of_length_eq_add_one lengths.symm
        have small := byte.toNat_lt
        have otherSmall := other.toNat_lt
        rw [ofLittleEndian, ofLittleEndian] at same
        have low : byte = other := UInt8.toNat_inj.mp (by omega)
        have high := inductionHypothesis (Nat.succ.inj lengths) (by omega)
        rw [low, high]
  · rintro rfl
    rfl

/-- A number that fits is not read from its bytes once one of them is changed. -/
theorem Integer.ofLittleEndian_set_ne {count value offset : Nat} {byte : UInt8}
    (fits : value < Nat.pow 256 count)
    (changed : (littleEndian count value).set offset byte ≠ littleEndian count value) :
    value ≠ ofLittleEndian ((littleEndian count value).set offset byte) := by
  intro same
  apply changed
  apply (ofLittleEndian_inj List.length_set).mp
  rw [← same, ofLittleEndian_littleEndian fits]

/-! ## Parts of an envelope -/

namespace Envelope

variable {payload : Bytes} {offset : Nat} {byte : UInt8}

/-- What stands in front of a payload. -/
def header (payload : Bytes) : Bytes :=
  magic ++ [UInt8.ofNat version.1, UInt8.ofNat version.2]
    ++ Integer.littleEndian 8 payload.length
    ++ Integer.littleEndian 4 (Checksum.checksum payload).toNat

theorem wrap_eq (payload : Bytes) : wrap payload = header payload ++ payload := rfl

theorem length_header (payload : Bytes) : (header payload).length = headerLength := by
  rw [header, List.length_append, List.length_append, Integer.length_littleEndian,
    Integer.length_littleEndian]
  rfl

/-- The first number of the version is the one that is compared. -/
theorem unwrap_set_major (payload : Bytes) (changed : byte.toNat ≠ version.1) :
    unwrap ((wrap payload).set 4 byte) = .error (.unsupportedVersion byte.toNat version.2) := by
  have parts : (wrap payload).set 4 byte = magic ++ [byte, UInt8.ofNat version.2]
      ++ Integer.littleEndian 8 payload.length
      ++ Integer.littleEndian 4 (Checksum.checksum payload).toNat ++ payload := rfl
  rw [parts, unwrap_parts (Integer.length_littleEndian 8 _) (Integer.length_littleEndian 4 _),
    if_pos changed]
  rfl

/-- The second number of the version is not compared. -/
theorem unwrap_set_minor (payload : Bytes) (byte : UInt8) :
    unwrap ((wrap payload).set 5 byte) = unwrap (wrap payload) := by
  have parts : (wrap payload).set 5 byte = magic ++ [UInt8.ofNat version.1, byte]
      ++ Integer.littleEndian 8 payload.length
      ++ Integer.littleEndian 4 (Checksum.checksum payload).toNat ++ payload := rfl
  rw [parts, wrap,
    unwrap_parts (Integer.length_littleEndian 8 _) (Integer.length_littleEndian 4 _),
    unwrap_parts (Integer.length_littleEndian 8 _) (Integer.length_littleEndian 4 _)]
  have major : (UInt8.ofNat version.1).toNat = version.1 := rfl
  simp only [major, ne_eq, not_true_eq_false, if_false]

/-- What is compared in an envelope with the right version. -/
theorem unwrap_fields {lengthField checkField : Bytes} (lengthWidth : lengthField.length = 8)
    (checkWidth : checkField.length = 4) (payload : Bytes) :
    unwrap (magic ++ [UInt8.ofNat version.1, UInt8.ofNat version.2] ++ lengthField ++ checkField
        ++ payload)
      = if payload.length ≠ Integer.ofLittleEndian lengthField then
          .error (.lengthMismatch (Integer.ofLittleEndian lengthField) payload.length)
        else if (Checksum.checksum payload).toNat ≠ Integer.ofLittleEndian checkField then
          .error .checksumMismatch
        else .ok payload := by
  have major : ¬(UInt8.ofNat version.1).toNat ≠ version.1 := by decide
  rw [unwrap_parts lengthWidth checkWidth, if_neg major]

theorem unwrap_set_length (short : payload.length < 0x10000000000000000) (inside : offset < 8)
    (changed : (wrap payload).set (6 + offset) byte ≠ wrap payload) :
    ∃ expected, unwrap ((wrap payload).set (6 + offset) byte)
      = .error (.lengthMismatch expected payload.length) := by
  have width := Integer.length_littleEndian 8 payload.length
  have parts : (wrap payload).set (6 + offset) byte
      = magic ++ [UInt8.ofNat version.1, UInt8.ofNat version.2]
        ++ (Integer.littleEndian 8 payload.length).set offset byte
        ++ Integer.littleEndian 4 (Checksum.checksum payload).toNat ++ payload := by
    rw [wrap, List.append_assoc _ _ payload, List.append_assoc _ _ payload]
    exact set_middle (magic ++ [_, _]) (width.symm ▸ inside) _ byte
  have fits : payload.length < Nat.pow 256 8 := Nat.lt_of_lt_of_eq short (by decide)
  have differs := Integer.ofLittleEndian_set_ne fits fun same => changed (by rw [parts, same, wrap])
  rw [parts, unwrap_fields (by rw [List.length_set, width]) (Integer.length_littleEndian 4 _),
    if_pos differs]
  exact ⟨_, rfl⟩

theorem unwrap_set_check (short : payload.length < 0x10000000000000000) (inside : offset < 4)
    (changed : (wrap payload).set (14 + offset) byte ≠ wrap payload) :
    unwrap ((wrap payload).set (14 + offset) byte) = .error .checksumMismatch := by
  have lengthWidth := Integer.length_littleEndian 8 payload.length
  have width := Integer.length_littleEndian 4 (Checksum.checksum payload).toNat
  have front : (magic ++ [UInt8.ofNat version.1, UInt8.ofNat version.2]
      ++ Integer.littleEndian 8 payload.length).length = 14 := by
    rw [List.length_append, lengthWidth]
    rfl
  have parts : (wrap payload).set (14 + offset) byte
      = magic ++ [UInt8.ofNat version.1, UInt8.ofNat version.2]
        ++ Integer.littleEndian 8 payload.length
        ++ (Integer.littleEndian 4 (Checksum.checksum payload).toNat).set offset byte
        ++ payload := by
    rw [wrap, ← front]
    exact set_middle _ (width.symm ▸ inside) payload byte
  have differs := Integer.ofLittleEndian_set_ne (toNat_checksum_lt payload)
    fun same => changed (by rw [parts, same, wrap])
  have fits : payload.length < Nat.pow 256 8 := Nat.lt_of_lt_of_eq short (by decide)
  rw [parts, unwrap_fields lengthWidth (by rw [List.length_set, width]),
    Integer.ofLittleEndian_littleEndian fits, if_neg (not_not_intro rfl), if_pos differs]

/-- A changed payload keeps its length and shows in its check. -/
theorem unwrap_set_payload (short : payload.length < 0x10000000000000000)
    (changed : (wrap payload).set (headerLength + offset) byte ≠ wrap payload) :
    unwrap ((wrap payload).set (headerLength + offset) byte) = .error .checksumMismatch := by
  have parts : (wrap payload).set (headerLength + offset) byte
      = header payload ++ payload.set offset byte := by
    rw [wrap_eq, ← length_header payload, List.set_append_right _ _ (Nat.le_add_right _ _),
      Nat.add_sub_cancel_left]
  have differs : Checksum.checksum (payload.set offset byte) ≠ Checksum.checksum payload := by
    rw [ne_eq, Checksum.checksum_set_inj]
    exact fun same => changed (by rw [parts, same, wrap_eq])
  have fits : (payload.set offset byte).length < Nat.pow 256 8 :=
    Nat.lt_of_lt_of_eq (List.length_set ▸ short) (by decide)
  have sameLength : payload.length = (payload.set offset byte).length := List.length_set.symm
  rw [parts, header, unwrap_fields (Integer.length_littleEndian 8 _)
      (Integer.length_littleEndian 4 _), sameLength,
    Integer.ofLittleEndian_littleEndian fits, if_neg (not_not_intro rfl),
    Integer.ofLittleEndian_littleEndian (toNat_checksum_lt payload),
    if_pos (mt UInt32.toNat_inj.mp differs)]

end Envelope

/-! ## Formats of changed files -/

theorem detect_magic (rest : Bytes) : detect (Envelope.magic ++ rest) = .ok .binary := by
  have begins : Envelope.magic.isPrefixOf (Envelope.magic ++ rest) = true :=
    List.isPrefixOf_iff_prefix.mpr (List.prefix_append _ _)
  rw [detect, if_pos begins]

theorem decode_magic {rest : Bytes} {fault : Envelope.Fault}
    (refused : Envelope.unwrap (Envelope.magic ++ rest) = .error fault) :
    decode (Envelope.magic ++ rest) = .error (.envelope fault) := by
  unfold decode
  simp only [detect_magic, listing?, refused]

/-- A change behind the magic bytes leaves them as they are. -/
theorem exists_set_wrap {place : Nat} (behind : 4 ≤ place) (payload : Bytes) (byte : UInt8) :
    ∃ rest, (Envelope.wrap payload).set place byte = Envelope.magic ++ rest := by
  rw [Envelope.wrap, List.append_assoc, List.append_assoc, List.append_assoc,
    List.set_append_right _ _ behind]
  exact ⟨_, rfl⟩

theorem decode_set_wrap {place : Nat} {byte : UInt8} {payload : Bytes} {fault : Envelope.Fault}
    (behind : 4 ≤ place)
    (refused : Envelope.unwrap ((Envelope.wrap payload).set place byte) = .error fault) :
    decode ((Envelope.wrap payload).set place byte) = .error (.envelope fault) := by
  obtain ⟨rest, begins⟩ := exists_set_wrap behind payload byte
  rw [begins] at refused ⊢
  exact decode_magic refused

/-- Behind its opening brace a document has the quote of a name or its closing brace. -/
theorem Document.decode_brace_other {first : UInt8} (solid : Json.isBlank first = false)
    (notClosing : first ≠ 0x7D) (notQuote : first ≠ 0x22) (rest : Bytes) :
    Document.decode (0x7B :: first :: rest) = .error .malformed := by
  have name : Json.memberName (first :: rest) = .error .malformed :=
    Json.Reader.andThen_error (if_neg notQuote) _
  have refused : Document.listing (0x7B :: first :: rest) = .error .malformed :=
    Json.Reader.refine_error (Json.Reader.opened_error (by decide)
      (Json.members_name_error (Json.border_first solid notClosing rest) name)) _
  simp only [Document.decode, Json.document, refused]

theorem decode_brace {rest : Bytes} {fault : Json.Fault}
    (refused : Document.decode (0x7B :: rest) = .error fault) :
    decode (0x7B :: rest) = .error (.document fault) := by
  unfold decode
  simp only [detect_brace, listing?, refused]

/-- Of the files that begin with another byte than a binary index file, one with a brace in
front is taken for a document, which it is not. -/
theorem decode_other_first {byte : UInt8} (changed : byte ≠ 0x51) (rest : Bytes) :
    decode (byte :: 0x52 :: 0x59 :: 0x58 :: rest) = .error .unrecognized ∨
      decode (byte :: 0x52 :: 0x59 :: 0x58 :: rest) = .error (.document .malformed) := by
  by_cases brace : byte = 0x7B
  · right
    rw [brace]
    exact decode_brace (Document.decode_brace_other (by decide) (by decide) (by decide) _)
  · left
    have notMagic : ¬Envelope.magic.isPrefixOf (byte :: 0x52 :: 0x59 :: 0x58 :: rest) = true := by
      simp [Envelope.magic, Ne.symm changed]
    have noBrace :
        ((byte :: 0x52 :: 0x59 :: 0x58 :: rest).dropWhile isSpace).head? ≠ some 0x7B := by
      by_cases space : isSpace byte = true
      · rw [List.dropWhile_cons_of_pos space, List.dropWhile_cons_of_neg (by decide)]
        simp
      · rw [List.dropWhile_cons_of_neg space]
        exact fun same => brace (Option.some.inj same)
    unfold decode detect
    rw [if_neg notMagic, if_neg noBrace]

/-- Without the magic bytes a file that begins with their first byte has no format. -/
theorem decode_unrecognized {rest : Bytes} (notMagic : ¬Envelope.magic <+: 0x51 :: rest) :
    decode (0x51 :: rest) = .error .unrecognized := by
  have noBrace : ((0x51 :: rest).dropWhile isSpace).head? ≠ some 0x7B := by
    rw [List.dropWhile_cons_of_neg (by decide)]
    simp
  unfold decode detect
  rw [if_neg (mt List.isPrefixOf_iff_prefix.mp notMagic), if_neg noBrace]

theorem decode_set_magic {place : Nat} {byte : UInt8} {payload : Bytes} (inside : place < 4)
    (changed : (Envelope.wrap payload).set place byte ≠ Envelope.wrap payload) :
    decode ((Envelope.wrap payload).set place byte) = .error .unrecognized ∨
      decode ((Envelope.wrap payload).set place byte) = .error (.document .malformed) := by
  obtain ⟨rest, parts⟩ : ∃ rest, Envelope.wrap payload = 0x51 :: 0x52 :: 0x59 :: 0x58 :: rest :=
    ⟨_, rfl⟩
  rw [parts] at changed ⊢
  rcases place with _ | _ | _ | _ | more
  · exact decode_other_first (fun same => changed (by rw [same]; rfl)) rest
  iterate 3
    left
    apply decode_unrecognized
    rintro ⟨back, same⟩
    apply changed
    simp only [Envelope.magic, List.set_cons_succ, List.set_cons_zero, List.cons_append,
      List.nil_append, List.cons.injEq, true_and] at same
    simp [← same.1]
  omega

/-! ## Whole files -/

/-- A byte of a binary file is changed in the magic bytes, in the version, in the length, in
the check or in the payload. -/
theorem decode_set_file {listing : Listing} {place : Nat} {byte : UInt8}
    (short : (Packed.encode listing).length < 0x10000000000000000) (notMinor : place ≠ 5)
    (changed : (file .binary listing).set place byte ≠ file .binary listing) :
    ∃ fault, decode ((file .binary listing).set place byte) = .error fault := by
  change (Envelope.wrap (Packed.encode listing)).set place byte
    ≠ Envelope.wrap (Packed.encode listing) at changed
  show ∃ fault, decode ((Envelope.wrap (Packed.encode listing)).set place byte) = .error fault
  by_cases inMagic : place < 4
  · rcases decode_set_magic inMagic changed with refused | refused
    · exact ⟨_, refused⟩
    · exact ⟨_, refused⟩
  have behind : 4 ≤ place := Nat.le_of_not_lt inMagic
  rcases Nat.lt_or_ge place 6 with inVersion | behindVersion
  · obtain rfl : place = 4 := by omega
    have other : byte.toNat ≠ Envelope.version.1 := by
      intro same
      have one : byte = 1 := UInt8.toNat_inj.mp same
      apply changed
      rw [one]
      rfl
    exact ⟨_, decode_set_wrap behind (Envelope.unwrap_set_major _ other)⟩
  rcases Nat.lt_or_ge place 14 with inLength | behindLength
  · obtain ⟨offset, rfl⟩ := Nat.exists_eq_add_of_le behindVersion
    obtain ⟨expected, refused⟩ := Envelope.unwrap_set_length short (by omega) changed
    exact ⟨_, decode_set_wrap behind refused⟩
  rcases Nat.lt_or_ge place 18 with inCheck | behindCheck
  · obtain ⟨offset, rfl⟩ := Nat.exists_eq_add_of_le behindLength
    exact ⟨_, decode_set_wrap behind (Envelope.unwrap_set_check short (by omega) changed)⟩
  · obtain ⟨offset, rfl⟩ := Nat.exists_eq_add_of_le behindCheck
    exact ⟨_, decode_set_wrap behind (Envelope.unwrap_set_payload short changed)⟩

/-- Another second number of the version makes no difference. -/
theorem decode_set_minor (listing : Listing) (minor : UInt8) :
    decode ((file .binary listing).set 5 minor) = decode (file .binary listing) := by
  change decode ((Envelope.wrap (Packed.encode listing)).set 5 minor)
    = decode (Envelope.wrap (Packed.encode listing))
  obtain ⟨rest, begins⟩ := exists_set_wrap (by decide : 4 ≤ 5) (Packed.encode listing) minor
  have detected : detect ((Envelope.wrap (Packed.encode listing)).set 5 minor) = .ok .binary := by
    rw [begins]
    exact detect_magic rest
  unfold decode
  simp only [detected, detect_wrap, listing?, Envelope.unwrap_set_minor]

/-- Of the bytes of a binary index file only the second number of the version, which is the
one at place 5, can be changed: with any other byte changed the file is refused, and with any
second number it gives the same index back. -/
theorem decode_file_changed {index : Index} {listing : Listing} (valid : index.isValid = true)
    (narrow : index.IsNarrow) (lists : listing.Lists index)
    (short : (Packed.encode listing).length < 0x10000000000000000) :
    (∀ (place : Nat) (byte : UInt8) (inside : place < (file .binary listing).length),
      place ≠ 5 → byte ≠ (file .binary listing)[place] →
        ∃ fault, decode ((file .binary listing).set place byte) = .error fault) ∧
      decode (file .binary listing) = .ok index ∧
      ∀ minor, decode ((file .binary listing).set 5 minor) = .ok index := by
  have read := (decode_file_binary valid narrow lists short).2
  refine ⟨fun place byte inside notMinor changed => ?_, read, fun minor => ?_⟩
  · exact decode_set_file short notMinor (set_ne_self inside changed)
  · rw [decode_set_minor, read]

/-- A byte of the payload, the first byte of all, which becomes a brace, and the second
number of the version are changed. -/
theorem decode_file_changed_unsorted :
    unsorted.index.isValid = true ∧
      (∃ fault, decode ((file .binary unsorted).set 30 0xFF) = .error fault) ∧
      (∃ fault, decode ((file .binary unsorted).set 0 0x7B) = .error fault) ∧
      decode ((file .binary unsorted).set 5 9) = .ok unsorted.index := by
  have valid : unsorted.index.isValid = true := by decide +kernel
  have changed := decode_file_changed valid (by decide +kernel)
    (Listing.lists_index (by decide) (by decide) (by decide)) (by decide +kernel)
  exact ⟨valid, changed.1 30 0xFF (by decide +kernel) (by decide) (by decide +kernel),
    changed.1 0 0x7B (by decide +kernel) (by decide) (by decide +kernel), changed.2.2 9⟩

end Concordance.Storage
