import Concordance.Failure
import Concordance.Proofs.Json.Cutting
import Concordance.Proofs.Storage.Corruption
import Mathlib.Data.List.TakeWhile

/-!
Contract: index files that are cut off or too long are refused.

A binary file says in its header how long its payload is, and a document shows by its last
brace that it is over. So of the front parts of an index file none is an index file, and
neither is a file with something behind it, unless these are blanks behind a document. A
document ends too early wherever it is cut. A binary file has no format, no room for its
header or a payload of another length, depending on the cut.

Owns:
- the faults of binary files that are cut off or too long;
- the faults of documents that are cut off or too long.

Does not own: cut strings, numbers, lists and objects (`Concordance.Proofs.Json.Cutting`).
-/

set_option autoImplicit false

namespace Concordance.Storage

open Concordance.Json (IsCut LeadsSteadily Reader)

/-! ## Binary files -/

namespace Envelope

theorem exists_header (payload : Bytes) : ∃ rest, header payload = magic ++ rest := by
  rw [header, List.append_assoc, List.append_assoc]
  exact ⟨_, rfl⟩

/-- A header belongs to payloads of one length. -/
theorem unwrap_header {payload other : Bytes} (short : payload.length < 0x10000000000000000)
    (different : other.length ≠ payload.length) :
    unwrap (header payload ++ other)
      = .error (.lengthMismatch payload.length other.length) := by
  have fits : payload.length < Nat.pow 256 8 := Nat.lt_of_lt_of_eq short (by decide)
  rw [header, unwrap_fields (Integer.length_littleEndian 8 _) (Integer.length_littleEndian 4 _),
    Integer.ofLittleEndian_littleEndian fits, if_pos different]

end Envelope

theorem decode_header {payload other : Bytes} (short : payload.length < 0x10000000000000000)
    (different : other.length ≠ payload.length) :
    decode (Envelope.header payload ++ other)
      = .error (.envelope (.lengthMismatch payload.length other.length)) := by
  have refused := Envelope.unwrap_header short different
  obtain ⟨rest, begins⟩ := Envelope.exists_header payload
  rw [begins, List.append_assoc] at refused ⊢
  exact decode_magic refused

/-- A file that is cut within its magic bytes has no format. -/
theorem decode_cut_magic {front : Bytes} (cut : IsCut front Envelope.magic) :
    decode front = .error .unrecognized := by
  have short := cut.length_lt
  rcases Json.isCut_cons.mp cut with rfl | ⟨others, rfl, _⟩
  · rfl
  · apply decode_unrecognized
    intro begins
    have bound := begins.length_le
    omega

/-- A file that is cut within its header has no format, or it has no room for a header. -/
theorem decode_cut_header {payload front : Bytes} (cut : IsCut front (Envelope.header payload)) :
    decode front = .error .unrecognized ∨ decode front = .error (.envelope .truncated) := by
  have short := cut.length_lt
  rw [Envelope.length_header] at short
  obtain ⟨rest, begins⟩ := Envelope.exists_header payload
  rw [begins] at cut
  rcases cut.of_append with within | ⟨back, rfl, _⟩
  · exact .inl (decode_cut_magic within)
  · exact .inr (decode_magic (if_pos short))

theorem decode_cut_wrap {payload front : Bytes} (short : payload.length < 0x10000000000000000)
    (cut : IsCut front (Envelope.wrap payload)) :
    ∃ message, (decode front).mapError Failure.ofStorage = .error (.storage message) := by
  rw [Envelope.wrap_eq] at cut
  rcases cut.of_append with within | ⟨back, rfl, behind⟩
  · rcases decode_cut_header within with refused | refused
    · exact ⟨_, by rw [refused]; rfl⟩
    · exact ⟨_, by rw [refused]; rfl⟩
  · have refused := decode_header short (Nat.ne_of_lt behind.length_lt)
    exact ⟨_, by rw [refused]; rfl⟩

theorem decode_wrap_append {payload extra : Bytes}
    (short : payload.length < 0x10000000000000000) (longer : extra ≠ []) :
    ∃ message, (decode (Envelope.wrap payload ++ extra)).mapError Failure.ofStorage
      = .error (.storage message) := by
  have different : (payload ++ extra).length ≠ payload.length := by
    have positive := List.length_pos_iff.mpr longer
    rw [List.length_append]
    omega
  have refused := decode_header short different
  rw [Envelope.wrap_eq, List.append_assoc, refused]
  exact ⟨_, rfl⟩

/-! ## Documents -/

namespace Document

theorem follows_position {value : Nat} (narrow : value < 0x100000000) :
    Reader.Follows position (Utf8.encode (Text.decimal value)) :=
  Json.follows_natural narrow (by decide)

theorem awaits_positions {positions : List Nat}
    (narrow : ∀ position ∈ positions, position < 0x100000000) :
    (Reader.list position).Awaits (Utf8.encode (positionsText positions)) :=
  Json.awaits_list (fun position member => recovers_position (narrow position member))
    fun position member => follows_position (narrow position member)

theorem awaits_postings {postings : List (Text × List Nat)}
    (narrow : ∀ posting ∈ postings, ∀ position ∈ posting.2, position < 0x100000000) :
    (Reader.table (Reader.list position)).Awaits (Utf8.encode (postingsText postings)) :=
  Json.awaits_table (fun posting member => recovers_positions (narrow posting member))
    fun posting member => (awaits_positions (narrow posting member)).follows

theorem awaits_cursor {value : Nat} (narrow : value < 0x100000000) :
    Reader.Awaits cursor (Utf8.encode (cursorText value)) := by
  have steadily : LeadsSteadily cursorMember none [("cursor", Text.decimal value)]
      (some value) := by
    refine .cons (fun _ => takes_cursorMember narrow) ?_ (.nil _)
    rw [cursorMember, if_pos rfl]
    exact (follows_position narrow).assigned.map some
  intro front cut
  have unfinished := Json.awaits_record steadily front cut
  obtain ⟨others, begins⟩ := Json.exists_encode_object [("cursor".toList, Text.decimal value)]
  rw [cursorText, begins] at cut
  rcases Json.isCut_cons.mp cut with rfl | ⟨inside, rfl, _⟩
  · rfl
  · have notList : ¬(0x7B :: inside).head? = some 0x5B := by simp
    exact Reader.afterNoBlanks_error
      ((if_neg notList).trans (Reader.refine_error unfinished required)) (by decide)

section Members

variable {written : Listing}

theorem awaits_terms
    (positions : ∀ term ∈ written.terms, ∀ posting ∈ term.2, ∀ position ∈ posting.2,
      position < 0x100000000) :
    (Reader.table (Reader.table (Reader.list position))).Awaits
      (Utf8.encode (Json.object
        (written.terms.map fun term => (term.1, postingsText term.2)))) :=
  Json.awaits_table (fun term member => recovers_postings (positions term member))
    fun term member => (awaits_postings (positions term member)).follows

theorem awaits_documents
    (cursors : ∀ entry ∈ written.documents, entry.2 < 0x100000000) :
    (Reader.table cursor).Awaits
      (Utf8.encode (Json.object
        (written.documents.map fun entry => (entry.1, cursorText entry.2)))) :=
  Json.awaits_table (fun entry member => recovers_cursor (cursors entry member))
    fun entry member => (awaits_cursor (cursors entry member)).follows

/-- A document shows by its last brace that it is over. -/
theorem awaits_listing
    (positions : ∀ term ∈ written.terms, ∀ posting ∈ term.2, ∀ position ∈ posting.2,
      position < 0x100000000)
    (cursors : ∀ entry ∈ written.documents, entry.2 < 0x100000000) :
    Reader.Awaits listing (encode written) := by
  have terms : (member ⟨none, none⟩ "terms").Follows (0x3A :: Utf8.encode (Json.object
      (written.terms.map fun term => (term.1, postingsText term.2)))) := by
    rw [member, if_pos rfl]
    exact (awaits_terms positions).follows.assigned.map _
  have documents : (member ⟨some written.terms, none⟩ "documents").Follows
      (0x3A :: Utf8.encode (Json.object
        (written.documents.map fun entry => (entry.1, cursorText entry.2)))) := by
    rw [member, if_neg (by decide), if_pos rfl]
    exact (awaits_documents cursors).follows.assigned.map _
  exact (Json.awaits_record (.cons (fun _ => takes_terms positions) terms
    (.cons (fun _ => takes_documents _ cursors) documents (.nil _)))).refine _

/-- Behind a document only blanks may stand. -/
theorem decode_append
    (positions : ∀ term ∈ written.terms, ∀ posting ∈ term.2, ∀ position ∈ posting.2,
      position < 0x100000000)
    (cursors : ∀ entry ∈ written.documents, entry.2 < 0x100000000) {extra : Bytes}
    (solid : ∃ byte ∈ extra, Json.isBlank byte = false) :
    decode (encode written ++ extra) = .error .malformed := by
  obtain ⟨byte, member, notBlank⟩ := solid
  have left : Json.dropBlanks extra ≠ [] := by
    intro none
    have blank := List.dropWhile_eq_nil_iff.mp none byte member
    exact Bool.false_ne_true (notBlank.symm.trans blank)
  obtain ⟨shorter, read⟩ := takes_listing positions cursors extra
  simp only [decode, Json.document, read, List.isEmpty_iff, if_neg left]

end Members

end Document

/-! ## Whole files -/

theorem decode_cut_document {written : Listing}
    (awaits : Reader.Awaits Document.listing (Document.encode written)) {front : Bytes}
    (nonempty : front ≠ []) (cut : IsCut front (Document.encode written)) :
    decode front = .error (.document .unfinished) := by
  have unfinished : Document.decode front = .error .unfinished :=
    Json.document_unfinished awaits cut
  obtain ⟨others, begins⟩ := Document.exists_encode written
  rw [begins] at cut
  rcases Json.isCut_cons.mp cut with rfl | ⟨inside, rfl, _⟩
  · exact absurd rfl nonempty
  · exact decode_brace unfinished

theorem decode_document_append {written : Listing} {extra : Bytes}
    (malformed : Document.decode (Document.encode written ++ extra) = .error .malformed) :
    decode (Document.encode written ++ extra) = .error (.document .malformed) := by
  obtain ⟨others, begins⟩ := Document.exists_encode written
  rw [begins] at malformed ⊢
  exact decode_brace malformed

/-- No front part of an index file is an index file, nor is a file with something behind it,
blanks behind a document apart. What is left of a binary file or stands behind it is a
failure of storage, as is nothing at all; what is left of a document ends too early; and what
stands behind a document is no JSON. -/
theorem decode_file_cut {index : Index} {listing : Listing} (valid : index.isValid = true)
    (narrow : index.IsNarrow) (lists : listing.Lists index)
    (short : (Packed.encode listing).length < 0x10000000000000000) :
    (∀ front, IsCut front (file .binary listing) →
      ∃ message, (decode front).mapError Failure.ofStorage = .error (.storage message)) ∧
    (∀ extra, extra ≠ [] →
      ∃ message, (decode (file .binary listing ++ extra)).mapError Failure.ofStorage
        = .error (.storage message)) ∧
    (∃ message, (decode []).mapError Failure.ofStorage = .error (.storage message)) ∧
    (∀ front, front ≠ [] → IsCut front (file .json listing) →
      (decode front).mapError Failure.ofStorage = .error (.json .unfinished)) ∧
    (∀ extra, (∃ byte ∈ extra, byte ∉ [0x20, 0x09, 0x0A, 0x0D]) →
      (decode (file .json listing ++ extra)).mapError Failure.ofStorage
        = .error (.json .malformed)) := by
  have sound := (Index.isValid_iff index).mp valid
  have positions := lists.position_lt sound narrow
  have cursors := lists.cursor_lt narrow
  refine ⟨fun front cut => decode_cut_wrap short cut,
    fun extra longer => decode_wrap_append short longer, ⟨_, rfl⟩,
    fun front nonempty cut => ?_, fun extra ⟨byte, member, notBlank⟩ => ?_⟩
  · rw [decode_cut_document (Document.awaits_listing positions cursors) nonempty cut]
    rfl
  · have solid : Json.isBlank byte = false := by
      simpa [Json.isBlank, and_assoc] using notBlank
    have malformed := Document.decode_append positions cursors ⟨byte, member, solid⟩
    have refused := decode_document_append malformed
    change decode (file .json listing ++ extra) = _ at refused
    rw [refused]
    rfl

/-- A binary file without its last byte and with one byte more, and a document that is cut
within a name and one that is given twice. -/
theorem decode_file_cut_oddlyNamed :
    oddlyNamed.index.isValid = true ∧
      (∃ message, (decode (file .binary oddlyNamed).dropLast).mapError Failure.ofStorage
        = .error (.storage message)) ∧
      (∃ message, (decode (file .binary oddlyNamed ++ [0])).mapError Failure.ofStorage
        = .error (.storage message)) ∧
      (decode ((file .json oddlyNamed).take 12)).mapError Failure.ofStorage
        = .error (.json .unfinished) ∧
      (decode (file .json oddlyNamed ++ file .json oddlyNamed)).mapError Failure.ofStorage
        = .error (.json .malformed) := by
  have valid : oddlyNamed.index.isValid = true := by decide +kernel
  obtain ⟨shorter, longer, _, cut, behind⟩ := decode_file_cut valid (by decide +kernel)
    (Listing.lists_index (by decide) (by decide) (by decide)) (by decide +kernel)
  exact ⟨valid, shorter _ ⟨List.dropLast_prefix _, by decide +kernel⟩,
    longer [0] (by decide), cut _ (by decide +kernel) ⟨List.take_prefix 12 _, by decide +kernel⟩,
    behind _ (by decide +kernel)⟩

end Concordance.Storage
