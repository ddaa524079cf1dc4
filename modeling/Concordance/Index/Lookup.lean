import Concordance.Index.Basic
import Concordance.Index.DocumentSet

/-!
Contract: the document sets that an index answers with.

Owns: the set of all documents, the documents of a word, and the two complements.

Does not own: sets of whole queries (`Concordance.Query.Evaluation`).
-/

set_option autoImplicit false

namespace Concordance.Index

/-- Every document of the index. -/
def allDocuments (index : Index) : DocumentSet := DocumentSet.ofList index.documents.keys

/-- The documents that contain a word. -/
def documentsWith (index : Index) (word : Text) : DocumentSet :=
  match index.postings? word with
  | some postings => DocumentSet.ofList postings.keys
  | none => ∅

/-- The documents of the index that do not contain a word. -/
def documentsWithout (index : Index) (word : Text) : DocumentSet :=
  match index.postings? word with
  | some postings => index.allDocuments.filter fun document => !postings.contains document
  | none => index.allDocuments

/-- The documents of the index that are not in a set. -/
def complement (index : Index) (set : DocumentSet) : DocumentSet :=
  index.allDocuments.filter fun document => !set.contains document

end Concordance.Index
