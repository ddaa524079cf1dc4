import Concordance.Proofs.Storage.Packed
import Concordance.Storage.Format

/-!
Contract: binary index files give their index back.

Owns:
- taking a payload out of the envelope into which it was put;
- reading back the binary file of any listing of a valid index.

Does not own: the packed form (`Concordance.Proofs.Storage.Packed`) and JSON documents.
-/

set_option autoImplicit false

namespace Concordance.Storage

/-! ## The envelope -/

namespace Envelope

/-- What `unwrap` compares where all parts of an envelope have their widths. -/
theorem unwrap_parts {major minor : UInt8} {lengthField checkField payload : Bytes}
    (lengthWidth : lengthField.length = 8) (checkWidth : checkField.length = 4) :
    unwrap (magic ++ [major, minor] ++ lengthField ++ checkField ++ payload)
      = if major.toNat ≠ version.1 then
          .error (.unsupportedVersion major.toNat minor.toNat)
        else if payload.length ≠ Integer.ofLittleEndian lengthField then
          .error (.lengthMismatch (Integer.ofLittleEndian lengthField) payload.length)
        else if (Checksum.checksum payload).toNat ≠ Integer.ofLittleEndian checkField then
          .error .checksumMismatch
        else .ok payload := by
  have fields : (magic ++ [major, minor] ++ lengthField ++ checkField ++ payload).drop 6
      = lengthField ++ (checkField ++ payload) := by
    rw [List.append_assoc, List.append_assoc]
    exact List.drop_left' rfl
  have behindLength :
      (magic ++ [major, minor] ++ lengthField ++ checkField ++ payload).drop 14
        = checkField ++ payload := by
    rw [List.append_assoc]
    exact List.drop_left' (by simp [magic, lengthWidth])
  have behindCheck :
      (magic ++ [major, minor] ++ lengthField ++ checkField ++ payload).drop headerLength
        = payload :=
    List.drop_left' (by simp [magic, headerLength, lengthWidth, checkWidth])
  unfold unwrap
  rw [fields, behindLength, behindCheck, List.take_left' lengthWidth,
    List.take_left' checkWidth, if_neg]
  · rfl
  · simp only [magic, headerLength, List.length_append, List.length_cons, List.length_nil,
      lengthWidth, checkWidth]
    omega

theorem toNat_checksum_lt (payload : Bytes) :
    (Checksum.checksum payload).toNat < Nat.pow 256 4 :=
  Nat.lt_of_lt_of_eq (Checksum.checksum payload).toNat_lt (by decide)

/-- A payload is taken out of its envelope if its length fits into eight bytes. -/
theorem unwrap_wrap {payload : Bytes} (short : payload.length < 0x10000000000000000) :
    unwrap (wrap payload) = .ok payload := by
  have fits : payload.length < Nat.pow 256 8 := Nat.lt_of_lt_of_eq short (by decide)
  rw [wrap, unwrap_parts (Integer.length_littleEndian 8 _) (Integer.length_littleEndian 4 _),
    Integer.ofLittleEndian_littleEndian fits,
    Integer.ofLittleEndian_littleEndian (toNat_checksum_lt payload)]
  simp [version]

theorem magic_isPrefixOf_wrap (payload : Bytes) : magic.isPrefixOf (wrap payload) = true := by
  rw [List.isPrefixOf_iff_prefix, wrap]
  simp only [List.append_assoc]
  exact List.prefix_append _ _

end Envelope

theorem detect_wrap (payload : Bytes) : detect (Envelope.wrap payload) = .ok .binary := by
  rw [detect, if_pos (Envelope.magic_isPrefixOf_wrap payload)]

/-! ## Whole files -/

/-- A file from which a listing of a valid index is read keeps that index. -/
theorem decode_eq_ok {kept : Bytes} {format : Format} {listing : Listing} {index : Index}
    (detected : detect kept = .ok format) (read : listing? format kept = .ok listing)
    (lists : listing.Lists index) (valid : index.isValid = true) :
    decode kept = .ok index := by
  rw [Index.isValid, Option.isNone_iff_eq_none] at valid
  unfold decode
  simp only [detected, read, Listing.validIndex, lists.index_eq, valid]

/-- The listing of a sound index is read from its binary file. -/
theorem listing?_file_binary {index : Index} {listing : Listing} (sound : index.Sound)
    (narrow : index.IsNarrow) (lists : listing.Lists index)
    (short : (Packed.encode listing).length < 0x10000000000000000) :
    listing? .binary (file .binary listing) = .ok listing := by
  have unpacked : Packed.decode (Packed.encode listing) = some listing :=
    Packed.decode_encode (lists.position_lt sound narrow) (lists.cursor_lt narrow) short
  simp only [listing?, file, Envelope.unwrap_wrap short, unpacked]

/-- The binary file of a valid index gives the index back, in whatever order its entries
were written, as long as its cursors fit into four bytes and the length of its payload
into eight. -/
theorem decode_file_binary {index : Index} {listing : Listing} (valid : index.isValid = true)
    (narrow : index.IsNarrow) (lists : listing.Lists index)
    (short : (Packed.encode listing).length < 0x10000000000000000) :
    detect (file .binary listing) = .ok .binary ∧
      decode (file .binary listing) = .ok index := by
  have detected : detect (file .binary listing) = .ok .binary :=
    detect_wrap (Packed.encode listing)
  have sound := (Index.isValid_iff index).mp valid
  exact ⟨detected,
    decode_eq_ok detected (listing?_file_binary sound narrow lists short) lists valid⟩

/-- Entries in no particular order, with the widest cursor and a document without
words. -/
def unsorted : Listing where
  terms := [("über", [("b", [1, 251, 300]), ("", [70000])]), ("\"", [("b", [2])])]
  documents := [("b", 300), ("", 0xFFFFFFFF), ("a", 0)]

theorem decode_file_binary_unsorted :
    unsorted ≠ listing unsorted.index ∧ detect (file .binary unsorted) = .ok .binary ∧
      decode (file .binary unsorted) = .ok unsorted.index :=
  ⟨by decide +kernel,
    decode_file_binary (by decide +kernel) (by decide +kernel)
      (Listing.lists_index (by decide) (by decide) (by decide)) (by decide +kernel)⟩

end Concordance.Storage
