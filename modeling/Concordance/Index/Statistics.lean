import Concordance.Index.Basic

/-!
Contract: the size of an index.

Owns: the four counts.

Does not own: how they are shown (`Concordance.Command.Report`).
-/

set_option autoImplicit false

namespace Concordance.Index

/-- Number of documents, distinct words, pairs of a word and a document that
contains it, and word occurrences. -/
structure Statistics where
  documents : Nat
  terms : Nat
  postings : Nat
  positions : Nat
deriving DecidableEq, Repr

/-- The numbers of a list added up. -/
def total (numbers : List Nat) : Nat := numbers.foldr (· + ·) 0

/-- The counts of an index. -/
def statistics (index : Index) : Statistics where
  documents := index.documentCount
  terms := index.termCount
  postings := total (index.terms.toList.map fun entry => entry.2.size)
  positions :=
    total (index.terms.toList.map fun entry =>
      total (entry.2.toList.map fun posting => posting.2.length))

end Concordance.Index
