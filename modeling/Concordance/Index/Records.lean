import Concordance.Index.Merge
import Concordance.Journal

/-!
Contract: what the journal says about changes of an index.

Owns: the records of adding a text and of merging.

Does not own: the changes themselves.
-/

set_option autoImplicit false

namespace Concordance.Index

open Concordance.Journal (Record)

/-- The records of `addText` on an index. -/
def addTextRecords (index : Index) (document text : Text) : List Record :=
  (if index.hasDocument document then []
   else
    [⟨.debug, .indexing,
      Text.concat ["Adding document ", document, " to the universe"]⟩])
    ++ [⟨.trace, .indexing,
        Text.concat
          ["Indexed ", Text.decimal (index.addText document text).2, " words for ",
            document]⟩]

/-- The records of a merge that ended in this index. -/
def mergeRecords (merged : Index) : List Record :=
  [⟨.debug, .indexing,
    Text.concat
      ["Merged index: ", Text.decimal merged.documentCount, " documents, ",
        Text.decimal merged.termCount, " words"]⟩]

end Concordance.Index
