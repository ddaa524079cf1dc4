import Concordance.Index.Validity
import Concordance.Storage.Document
import Concordance.Storage.Envelope
import Concordance.Storage.Packed

/-!
Contract: index files.

An index is kept as a packed listing in an envelope or as a JSON document. Which of
the two a file is shows in its first bytes.

Owns:
- the formats, and which one a file has;
- `encode` and `decode`, which accepts valid indexes only;
- the faults of index files.

Does not own: files on a disk (`Concordance.Disk.Basic`).
-/

set_option autoImplicit false

namespace Concordance.Storage

/-- The ways in which an index is kept. -/
inductive Format where
  | binary
  | json
deriving DecidableEq, Repr

/-- Name of a format. -/
def Format.name : Format → Text
  | binary => "Binary"
  | json => "Json"

/-- The format that is used where none is asked for. -/
def defaultFormat : Format := .binary

/-- Why a file holds no index. -/
inductive Fault where
  | unrecognized
  | envelope (fault : Envelope.Fault)
  | packed
  | document (fault : Json.Fault)
  | corrupt (defect : Index.Defect)
deriving DecidableEq, Repr

/-- Bytes that may stand before the opening brace of a JSON document. -/
def isSpace (byte : UInt8) : Bool :=
  byte = 0x20 || byte = 0x09 || byte = 0x0A || byte = 0x0C || byte = 0x0D

/-- The format of a file. -/
def detect (file : Bytes) : Except Fault Format :=
  if Envelope.magic.isPrefixOf file then .ok .binary
  else if (file.dropWhile isSpace).head? = some 0x7B then .ok .json
  else .error .unrecognized

/-- The file that keeps a listing. -/
def file (format : Format) (listing : Listing) : Bytes :=
  match format with
  | .binary => Envelope.wrap (Packed.encode listing)
  | .json => Document.encode listing

/-- The file that keeps an index. -/
def encode (format : Format) (index : Index) : Bytes := file format (listing index)

/-- The listing that a file of the given format keeps. -/
def listing? (format : Format) (file : Bytes) : Except Fault Listing :=
  match format with
  | .binary =>
      match Envelope.unwrap file with
      | .error fault => .error (.envelope fault)
      | .ok payload =>
          match Packed.decode payload with
          | none => .error .packed
          | some listing => .ok listing
  | .json =>
      match Document.decode file with
      | .error fault => .error (.document fault)
      | .ok listing => .ok listing

/-- The index of a listing, if it is valid. -/
def Listing.validIndex (listing : Listing) : Except Fault Index :=
  match listing.index.defect? with
  | some defect => .error (.corrupt defect)
  | none => .ok listing.index

/-- The index that a file keeps. -/
def decode (file : Bytes) : Except Fault Index :=
  match detect file with
  | .error fault => .error fault
  | .ok format =>
      match listing? format file with
      | .error fault => .error fault
      | .ok listing => listing.validIndex

end Concordance.Storage
