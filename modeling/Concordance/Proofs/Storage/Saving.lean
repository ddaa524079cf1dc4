import Concordance.Proofs.Storage.Bounds
import Concordance.Proofs.Storage.Document

/-!
Contract: which indexes are read back from their files.

A file has four bytes for a cursor, and a binary file has eight for the length of its payload.
What fits is read back as it was, in either format, and what does not is not.

Owns:
- indexes whose numbers fit into a file;
- that these are the ones that are read back.

Does not own: how each format is read (`Concordance.Proofs.Storage.Binary` and
`Concordance.Proofs.Storage.Document`).
-/

set_option autoImplicit false

namespace Concordance.Storage

/-- The numbers in the file of a listing are no larger than the file has room for. -/
structure Fits (format : Format) (index : Index) (listing : Listing) : Prop where
  narrow : index.IsNarrow
  short : format = .binary → (Packed.encode listing).length < 0x10000000000000000

/-- The length that is found in an envelope is less than eight bytes have room for. -/
theorem Envelope.length_lt_of_unwrap {payload other : Bytes}
    (taken : unwrap (wrap payload) = .ok other) : payload.length < 0x10000000000000000 := by
  have bound := Integer.ofLittleEndian_lt (Integer.littleEndian 8 payload.length)
  rw [Integer.length_littleEndian] at bound
  rw [wrap, unwrap_parts (Integer.length_littleEndian 8 _) (Integer.length_littleEndian 4 _)]
    at taken
  split at taken
  · cases taken
  · split at taken
    · cases taken
    · rename_i same
      rw [not_not] at same
      rw [same]
      exact Nat.lt_of_lt_of_eq bound (by decide)

theorem Fits.of_decode {format : Format} {index : Index} {listing : Listing}
    (read : decode (file format listing) = .ok index) : Fits format index listing where
  narrow := (isValid_of_decode read).2
  short := by
    rintro rfl
    have detected : detect (file .binary listing) = .ok .binary := detect_wrap _
    unfold decode at read
    rw [detected] at read
    cases taken : Envelope.unwrap (file .binary listing) with
    | ok payload => exact Envelope.length_lt_of_unwrap taken
    | error fault =>
        simp only [listing?, taken] at read
        cases read

/-- A sound index is read back from its file, with its entries in any order, exactly if the file
has room for its numbers. -/
theorem decode_file_iff {format : Format} {index : Index} {listing : Listing}
    (sound : index.Sound) (lists : listing.Lists index) :
    decode (file format listing) = .ok index ↔ Fits format index listing := by
  refine ⟨Fits.of_decode, fun fits => ?_⟩
  have valid := (Index.isValid_iff index).mpr sound
  cases format with
  | binary =>
      exact decode_eq_ok (detect_wrap _)
        (listing?_file_binary sound fits.narrow lists (fits.short rfl)) lists valid
  | json =>
      exact decode_eq_ok (detect_document listing)
        (listing?_file_json sound fits.narrow lists) lists valid

end Concordance.Storage
