import Concordance.Json.Composite
import Concordance.Json.Text
import Concordance.Storage.Listing

/-!
Contract: the JSON document of a listing.

A document is an object with two members. `terms` maps every word to the documents
that contain it, each with the list of positions, and `documents` maps every
document to a record whose member `cursor` counts its words.

Owns: `encode`, and `decode`, which passes over members it does not know and takes
members in any order.

Does not own: JSON itself.
-/

set_option autoImplicit false

namespace Concordance.Storage.Document

open Concordance.Json (Fault Reader)

/-- The written form of the positions of a word in a document. -/
def positionsText (positions : List Nat) : Text :=
  Json.list (positions.map Text.decimal)

/-- The written form of the documents that contain a word. -/
def postingsText (postings : List (Text × List Nat)) : Text :=
  Json.object (postings.map fun posting => (posting.1, positionsText posting.2))

/-- The written form of the record of a document. -/
def cursorText (cursor : Nat) : Text :=
  Json.object [("cursor", Text.decimal cursor)]

/-- The document of a listing. -/
def text (listing : Listing) : Text :=
  Json.object
    [("terms", Json.object (listing.terms.map fun term => (term.1, postingsText term.2))),
     ("documents",
       Json.object (listing.documents.map fun entry => (entry.1, cursorText entry.2)))]

/-- The bytes of the document of a listing. -/
def encode (listing : Listing) : Bytes := Utf8.encode (text listing)

/-! ## Reading -/

/-- Reads a position or a cursor. -/
def position : Reader Nat := .natural 0x100000000

/-- A member that has to be there. -/
def required {α : Type} : Option α → Except Fault α
  | some value => .ok value
  | none => .error .mismatched

/-- Reads the value of a member that may be given once. -/
def once {α : Type} (earlier : Option α) (value : Reader α) : Reader α :=
  match earlier with
  | some _ => .refuse .mismatched
  | none => .assigned value

/-- Reads a member of the record of a document. -/
def cursorMember (cursor : Option Nat) (name : Text) : Reader (Option Nat) :=
  if name = "cursor".toList then (once cursor position).map some
  else (Reader.assigned Json.skipped).map fun _ => cursor

/-- Reads the record of a document as a list of its members' values. -/
def cursorList : Reader Nat :=
  .opened 0x5B fun bytes =>
    match Json.border 0x5D true bytes with
    | .error fault => .error fault
    | .ok (.closed _ _) => .error .mismatched
    | .ok (.part rest bound) =>
        match (position.andThen fun cursor =>
            (Reader.exactly 0x5D).afterBlanks.map fun _ => cursor) rest with
        | .error fault => .error fault
        | .ok taken => .ok (taken.within bound)

/-- Reads the record of a document. -/
def cursor : Reader Nat :=
  Reader.afterBlanks fun bytes =>
    if bytes.head? = some 0x5B then cursorList bytes
    else (Reader.record cursorMember none).refine required bytes

/-- The members of a document that have been read so far. -/
structure Parts where
  terms : Option (List (Text × List (Text × List Nat)))
  documents : Option (List (Text × Nat))

/-- Reads a member of a document. -/
def member (parts : Parts) (name : Text) : Reader Parts :=
  if name = "terms".toList then
    (once parts.terms (.table (.table (.list position)))).map fun terms =>
      { parts with terms := some terms }
  else if name = "documents".toList then
    (once parts.documents (.table cursor)).map fun documents =>
      { parts with documents := some documents }
  else (Reader.assigned Json.skipped).map fun _ => parts

/-- Reads a document. -/
def listing : Reader Listing :=
  (Reader.record member ⟨none, none⟩).refine fun parts =>
    match parts.terms, parts.documents with
    | some terms, some documents => .ok ⟨terms, documents⟩
    | _, _ => .error .mismatched

/-- The listing of a document. -/
def decode (bytes : Bytes) : Except Fault Listing := Json.document listing bytes

end Concordance.Storage.Document
