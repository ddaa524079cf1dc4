import Concordance.Index.Basic

/-!
Contract: indexes written down as lists of entries.

An index file holds entries in some order. Reading them back, the order does not
matter, and of two entries with one key the later counts.

Owns: the type, the listing of an index in ascending order, and the index of a
listing.

Does not own: how a listing becomes bytes.
-/

set_option autoImplicit false

namespace Concordance.Storage

/-- The entries of an index: the positions by word and document, and the cursors
by document. -/
structure Listing where
  terms : List (Text × List (Text × List Nat))
  documents : List (Text × Nat)
deriving DecidableEq, Repr

/-- The index with these entries. -/
def Listing.index (listing : Listing) : Index where
  terms := Std.ExtTreeMap.ofList
    (listing.terms.map fun entry => (entry.1, Std.ExtTreeMap.ofList entry.2))
  documents := Std.ExtTreeMap.ofList listing.documents

/-- The entries of an index in ascending order. -/
def listing (index : Index) : Listing where
  terms := index.terms.toList.map fun entry => (entry.1, entry.2.toList)
  documents := index.documents.toList

end Concordance.Storage
