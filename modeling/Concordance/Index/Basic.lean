import Concordance.Text.Word
import Std.Data.ExtTreeMap

/-!
Contract: the positional index.

The index maps every word to the documents that contain it and, for each of
them, to the ascending positions of the word there. A position is the ordinal,
from one, of a word among all words indexed for the document so far. Positions have
no bound here: index files hold those that fit into four bytes
(`Concordance.Proofs.Storage.Listing`).

Owns:
- the types `Postings` and `Index`, and the empty index;
- looking up the positions of a word and the cursor of a document;
- `addText`, the only way in which text enters an index.

Does not own: folding one index into another (`Concordance.Index.Merge`) and
the conditions a loaded index meets (`Concordance.Index.Validity`).
-/

set_option autoImplicit false

namespace Concordance

/-- The documents that contain one word, each with the positions of the word. -/
abbrev Postings := Std.ExtTreeMap Text (List Nat)

/-- The postings with one more position of a word in a document. -/
def Postings.record (postings : Postings) (document : Text) (position : Nat) :
    Postings :=
  postings.alter document fun positions => some (positions.getD [] ++ [position])

/-- A positional index. `documents` holds the number of words indexed so far for
every document. -/
structure Index where
  terms : Std.ExtTreeMap Text Postings
  documents : Std.ExtTreeMap Text Nat
deriving DecidableEq

namespace Index

/-- The index of no documents. -/
def empty : Index := ⟨∅, ∅⟩

instance : EmptyCollection Index := ⟨empty⟩

instance : Inhabited Index := ⟨empty⟩

/-- The documents that contain a word, if the word is in the index. -/
def postings? (index : Index) (word : Text) : Option Postings := index.terms[word]?

/-- The positions of a word in a document. -/
def positions? (index : Index) (word document : Text) : Option (List Nat) :=
  (index.postings? word).bind fun postings => postings[document]?

/-- Number of words indexed for a document. -/
def cursor? (index : Index) (document : Text) : Option Nat := index.documents[document]?

/-- Whether a document has been indexed, with or without words. -/
def hasDocument (index : Index) (document : Text) : Bool :=
  index.documents.contains document

def documentCount (index : Index) : Nat := index.documents.size

def termCount (index : Index) : Nat := index.terms.size

def isEmpty (index : Index) : Bool := index.documents.isEmpty

/-- The index with a document in it, which has no words if it is new. -/
def addDocument (index : Index) (document : Text) : Index :=
  if index.hasDocument document then index
  else { index with documents := index.documents.insert document 0 }

/-- The index with one more word at the next position of a document. Documents
that are not in the index get no words. -/
def addWord (index : Index) (document word : Text) : Index :=
  match index.cursor? document with
  | none => index
  | some cursor =>
      { terms := index.terms.alter word fun postings =>
          some ((postings.getD ∅).record document (cursor + 1)),
        documents := index.documents.insert document (cursor + 1) }

/-- The index with the words of a text appended to a document, and their number.
The document is in the index afterwards even if the text has no words. -/
def addText (index : Index) (document text : Text) : Index × Nat :=
  text.words.foldl
    (fun state word => (state.1.addWord document word.text, state.2 + 1))
    (index.addDocument document, 0)

/-- The index of a list of documents with their texts, added one after another. -/
def ofTexts (texts : List (Text × Text)) : Index :=
  texts.foldl (fun index entry => (index.addText entry.1 entry.2).1) empty

end Index

end Concordance
