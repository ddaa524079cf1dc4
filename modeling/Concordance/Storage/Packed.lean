import Concordance.Storage.Integer
import Concordance.Storage.Listing
import Concordance.Text.Utf8

/-!
Contract: the packed form of a listing.

Texts, lists and tables are preceded by their length, texts counting bytes; the
parts of a record follow one another without marks.

Owns: `encode`, and `decode`, which takes a listing off the front of a byte string
and leaves the bytes after it unread.

Does not own: the header around the packed form (`Concordance.Storage.Envelope`).
-/

set_option autoImplicit false

namespace Concordance.Storage.Packed

/-- A reader takes a value off the front of a byte string. -/
abbrev Reader (α : Type) := Bytes → Option (α × Bytes)

/-- The length of a list and then its elements. -/
def encodeList {α : Type} (encodeOne : α → Bytes) (items : List α) : Bytes :=
  Integer.encode items.length ++ items.flatMap encodeOne

/-- Reads `count` values one after another. -/
def readMany {α : Type} (readOne : Reader α) : Nat → Reader (List α)
  | 0, bytes => some ([], bytes)
  | count + 1, bytes =>
      match readOne bytes with
      | none => none
      | some (item, rest) =>
          (readMany readOne count rest).map fun (items, after) => (item :: items, after)

/-- Reads a length and then that many values. -/
def readList {α : Type} (readOne : Reader α) : Reader (List α) := fun bytes =>
  match Integer.decode .eightBytes bytes with
  | none => none
  | some (count, rest) => readMany readOne count rest

/-- Reads one value and then another. -/
def readPair {α β : Type} (readFirst : Reader α) (readSecond : Reader β) :
    Reader (α × β) := fun bytes =>
  match readFirst bytes with
  | none => none
  | some (first, rest) =>
      (readSecond rest).map fun (second, after) => ((first, second), after)

/-- The number of bytes of a text and then the bytes. -/
def encodeText (text : Text) : Bytes :=
  Integer.encode (Utf8.encode text).length ++ Utf8.encode text

/-- Reads a text, whose bytes must be well formed. -/
def readText : Reader Text := fun bytes =>
  match Integer.decode .eightBytes bytes with
  | none => none
  | some (count, rest) =>
      if count ≤ rest.length then
        (Utf8.decode? (rest.take count)).map fun text => (text, rest.drop count)
      else none

/-- Reads a position or a cursor. -/
def readPosition : Reader Nat := Integer.decode .fourBytes

def encodePosting (posting : Text × List Nat) : Bytes :=
  encodeText posting.1 ++ encodeList Integer.encode posting.2

def encodeTerm (entry : Text × List (Text × List Nat)) : Bytes :=
  encodeText entry.1 ++ encodeList encodePosting entry.2

def encodeCursor (entry : Text × Nat) : Bytes :=
  encodeText entry.1 ++ Integer.encode entry.2

/-- The packed form of a listing. -/
def encode (listing : Listing) : Bytes :=
  encodeList encodeTerm listing.terms ++ encodeList encodeCursor listing.documents

/-- Reads the postings by word. -/
def readTerms : Reader (List (Text × List (Text × List Nat))) :=
  readList (readPair readText (readList (readPair readText (readList readPosition))))

/-- Reads the cursors by document. -/
def readDocuments : Reader (List (Text × Nat)) :=
  readList (readPair readText readPosition)

/-- The listing at the front of a byte string. -/
def decode (bytes : Bytes) : Option Listing :=
  (readPair readTerms readDocuments bytes).map fun (parts, _) => ⟨parts.1, parts.2⟩

end Concordance.Storage.Packed
