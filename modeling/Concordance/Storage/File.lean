import Concordance.Failure
import Concordance.Journal

/-!
Contract: keeping an index in a file of the disk.

Owns: `save` and `load` with the records they leave.

Does not own: the content of index files (`Concordance.Storage.Format`).
-/

set_option autoImplicit false

namespace Concordance.Storage

open Concordance.Journal (Record)

/-- The disk after an index is saved at a written path. -/
def save (disk : Disk) (path : Text) (format : Format) (index : Index) :
    Except Failure Disk :=
  match disk.write (Utf8.encode path) (encode format index) with
  | .error fault => .error (.disk fault)
  | .ok changed => .ok changed

/-- The record of an index that has been saved. -/
def saveRecord (path : Text) (format : Format) (index : Index) : Record :=
  ⟨.info, .storage,
    Text.concat
      ["Saved index with ", Text.decimal index.documentCount, " documents to ", path,
        " (", Text.decimal (encode format index).length, " bytes, ", format.name, ")"]⟩

/-- The index that is saved at a written path. -/
def load (disk : Disk) (path : Text) : Except Failure Index :=
  match disk.read (Utf8.encode path) with
  | .error fault => .error (.disk fault)
  | .ok file =>
      match decode file with
      | .error fault => .error (.ofStorage fault)
      | .ok index => .ok index

/-- The record of an index that has been loaded. -/
def loadRecord (path : Text) (index : Index) : Record :=
  ⟨.info, .storage,
    Text.concat
      ["Loaded index with ", Text.decimal index.documentCount, " documents from ",
        path]⟩

end Concordance.Storage
