import Concordance.Proofs.Json.Composite
import Concordance.Proofs.Json.Numeral
import Concordance.Proofs.Storage.Binary

/-!
Contract: JSON index files give their index back.

Owns: reading back the JSON document of any listing of a valid index, whatever
characters its words and documents have.

Does not own: strings, numbers, lists and objects in general.
-/

set_option autoImplicit false

namespace Concordance.Storage

open Concordance.Json (Reader Leads)
open Concordance.Json.Reader (Delimited Recovers Takes)

namespace Document

/-! ## Numbers, positions and postings -/

theorem recovers_position {value : Nat} (narrow : value < 0x100000000) :
    Recovers position value (Utf8.encode (Text.decimal value)) :=
  Json.recovers_natural narrow (by decide)

theorem recovers_positions {positions : List Nat}
    (narrow : ∀ position ∈ positions, position < 0x100000000) :
    Recovers (Reader.list position) positions (Utf8.encode (positionsText positions)) :=
  Json.recovers_list fun position member => recovers_position (narrow position member)

theorem recovers_postings {postings : List (Text × List Nat)}
    (narrow : ∀ posting ∈ postings, ∀ position ∈ posting.2, position < 0x100000000) :
    Recovers (Reader.table (Reader.list position)) postings
      (Utf8.encode (postingsText postings)) :=
  Json.recovers_table fun posting member => recovers_positions (narrow posting member)

/-! ## Records -/

/-- A member that has not been given is read with its value. -/
theorem takes_once {α : Type} {value : Reader α} {item : α} {bytes : Bytes}
    (recovers : Recovers value item bytes) {rest : Bytes} (delimited : Delimited rest) :
    Takes (once none value) (0x3A :: bytes ++ rest) item rest :=
  Reader.takes_assigned (recovers.takes rest delimited)

theorem takes_cursorMember {value : Nat} (narrow : value < 0x100000000) {rest : Bytes}
    (delimited : Delimited rest) :
    Takes (cursorMember none "cursor") (0x3A :: Utf8.encode (Text.decimal value) ++ rest)
      (some value) rest := by
  rw [cursorMember, if_pos rfl]
  exact (takes_once (recovers_position narrow) delimited).map some

theorem recovers_cursor {value : Nat} (narrow : value < 0x100000000) :
    Recovers cursor value (Utf8.encode (cursorText value)) := by
  have leads : Leads cursorMember none [("cursor", Text.decimal value)] (some value) :=
    .cons (fun _ => takes_cursorMember narrow) (.nil _)
  have record := Json.recovers_record leads
  refine ⟨record.begins, fun rest delimited => ?_⟩
  have taken := record.takes rest delimited
  rw [cursorText]
  obtain ⟨others, begins⟩ := Json.exists_encode_object [("cursor".toList, Text.decimal value)]
  rw [begins] at taken ⊢
  have notList : ¬(0x7B :: (others ++ rest)).head? = some 0x5B := by simp
  refine Takes.afterNoBlanks (Takes.congr (if_neg notList) ?_) (by decide)
  exact taken.refine rfl

/-! ## Documents -/

section Members

variable {written : Listing} {rest : Bytes}

theorem recovers_terms
    (positions : ∀ term ∈ written.terms, ∀ posting ∈ term.2, ∀ position ∈ posting.2,
      position < 0x100000000) :
    Recovers (Reader.table (Reader.table (Reader.list position))) written.terms
      (Utf8.encode (Json.object
        (written.terms.map fun term => (term.1, postingsText term.2)))) :=
  Json.recovers_table fun term member => recovers_postings (positions term member)

theorem recovers_documents
    (cursors : ∀ entry ∈ written.documents, entry.2 < 0x100000000) :
    Recovers (Reader.table cursor) written.documents
      (Utf8.encode (Json.object
        (written.documents.map fun entry => (entry.1, cursorText entry.2)))) :=
  Json.recovers_table fun entry member => recovers_cursor (cursors entry member)

theorem takes_terms
    (positions : ∀ term ∈ written.terms, ∀ posting ∈ term.2, ∀ position ∈ posting.2,
      position < 0x100000000) (delimited : Delimited rest) :
    Takes (member ⟨none, none⟩ "terms")
      (0x3A :: Utf8.encode (Json.object
        (written.terms.map fun term => (term.1, postingsText term.2))) ++ rest)
      ⟨some written.terms, none⟩ rest := by
  rw [member, if_pos rfl]
  exact (takes_once (recovers_terms positions) delimited).map _

theorem takes_documents (terms : Option (List (Text × List (Text × List Nat))))
    (cursors : ∀ entry ∈ written.documents, entry.2 < 0x100000000)
    (delimited : Delimited rest) :
    Takes (member ⟨terms, none⟩ "documents")
      (0x3A :: Utf8.encode (Json.object
        (written.documents.map fun entry => (entry.1, cursorText entry.2))) ++ rest)
      ⟨terms, some written.documents⟩ rest := by
  rw [member, if_neg (by decide), if_pos rfl]
  exact (takes_once (recovers_documents cursors) delimited).map _

end Members

/-- The document of a listing is taken whatever follows it if its positions and cursors are
in range. -/
theorem takes_listing {written : Listing}
    (positions : ∀ term ∈ written.terms, ∀ posting ∈ term.2, ∀ position ∈ posting.2,
      position < 0x100000000)
    (cursors : ∀ entry ∈ written.documents, entry.2 < 0x100000000) (rest : Bytes) :
    Takes listing (encode written ++ rest) written rest := by
  have leads := Leads.cons (fun _ => takes_terms positions)
    (.cons (fun _ => takes_documents _ cursors) (.nil _))
  exact (Json.takes_record leads rest).refine rfl

theorem exists_encode (written : Listing) : ∃ others, encode written = 0x7B :: others :=
  Json.exists_encode_object _

theorem recovers_listing {written : Listing}
    (positions : ∀ term ∈ written.terms, ∀ posting ∈ term.2, ∀ position ∈ posting.2,
      position < 0x100000000)
    (cursors : ∀ entry ∈ written.documents, entry.2 < 0x100000000) :
    Recovers listing written (encode written) := by
  obtain ⟨others, begins⟩ := exists_encode written
  exact ⟨⟨0x7B, others, begins, by decide, by decide, by decide⟩,
    fun rest _ => takes_listing positions cursors rest⟩

end Document

/-! ## Whole files -/

/-- Bytes that begin with a brace are taken for a document. -/
theorem detect_brace (others : Bytes) : detect (0x7B :: others) = .ok .json := by
  have notMagic : ¬Envelope.magic.isPrefixOf (0x7B :: others) = true := by
    simp [Envelope.magic]
  have brace : ((0x7B :: others).dropWhile isSpace).head? = some 0x7B := by
    rw [List.dropWhile_cons_of_neg (by decide)]
    rfl
  rw [detect, if_neg notMagic, if_pos brace]

theorem detect_document (written : Listing) :
    detect (Document.encode written) = .ok .json := by
  obtain ⟨others, begins⟩ := Document.exists_encode written
  rw [begins]
  exact detect_brace others

/-- The listing of a sound index is read from its JSON document. -/
theorem listing?_file_json {index : Index} {listing : Listing} (sound : index.Sound)
    (narrow : index.IsNarrow) (lists : listing.Lists index) :
    listing? .json (file .json listing) = .ok listing := by
  have read : Document.decode (Document.encode listing) = .ok listing :=
    Json.document_eq_ok
      (Document.recovers_listing (lists.position_lt sound narrow) (lists.cursor_lt narrow))
  simp only [listing?, file, read]

/-- The JSON document of a valid index gives the index back, in whatever order its
entries were written, as long as its cursors fit into four bytes. -/
theorem decode_file_json {index : Index} {listing : Listing} (valid : index.isValid = true)
    (narrow : index.IsNarrow) (lists : listing.Lists index) :
    detect (file .json listing) = .ok .json ∧ decode (file .json listing) = .ok index := by
  have detected : detect (file .json listing) = .ok .json := detect_document listing
  have sound := (Index.isValid_iff index).mp valid
  exact ⟨detected, decode_eq_ok detected (listing?_file_json sound narrow lists) lists valid⟩

/-- Entries in no particular order, with names that are empty or made of quotes,
backslashes, control characters and characters beyond sixteen bits. -/
def oddlyNamed : Listing where
  terms := [("\"\\", [("\x01\n", [0xFFFFFFFF]), ("😀", [1])]), ("", [("😀", [2])])]
  documents := [("😀", 2), ("\x01\n", 0xFFFFFFFF), ("", 0)]

theorem decode_file_json_oddlyNamed :
    oddlyNamed ≠ listing oddlyNamed.index ∧ detect (file .json oddlyNamed) = .ok .json ∧
      decode (file .json oddlyNamed) = .ok oddlyNamed.index :=
  ⟨by decide +kernel,
    decode_file_json (by decide +kernel) (by decide +kernel)
      (Listing.lists_index (by decide) (by decide) (by decide))⟩

end Concordance.Storage
