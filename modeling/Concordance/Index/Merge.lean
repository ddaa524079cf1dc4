import Concordance.Index.Basic

/-!
Contract: folding one index into another.

The result is the index that the texts of the second would give if they were
added to the first: positions of a document known to both are shifted past the
words the first has for it.

Owns: `merge`, and indexing many texts by plans that index parts separately.

Does not own: `addText` (`Concordance.Index.Basic`).
-/

set_option autoImplicit false

namespace Concordance

/-- The postings with those of another index appended, each document's positions
moved by `shift`. -/
def Postings.append (own other : Postings) (shift : Text → Nat) : Postings :=
  other.toList.foldl
    (fun merged entry =>
      merged.alter entry.1 fun positions =>
        some (positions.getD [] ++ entry.2.map (· + shift entry.1)))
    own

namespace Index

/-- By how much the positions of `other` move in a document: by the words the
index has for it, if `other` knows the document at all. -/
def shiftFor (index other : Index) (document : Text) : Nat :=
  if other.hasDocument document then (index.cursor? document).getD 0 else 0

/-- The index with another one folded into it. -/
def merge (index other : Index) : Index :=
  { terms := other.terms.toList.foldl
      (fun merged entry =>
        merged.alter entry.1 fun postings =>
          some ((postings.getD ∅).append entry.2 (index.shiftFor other)))
      index.terms,
    documents := other.documents.toList.foldl
      (fun merged entry =>
        merged.alter entry.1 fun cursor => some (cursor.getD 0 + entry.2))
      index.documents }

/-- A way of indexing texts in parts: nothing, a run of texts in order, or two
plans whose indexes are merged. -/
inductive Plan where
  | nothing
  | run (texts : List (Text × Text))
  | both (left right : Plan)
deriving DecidableEq, Repr

namespace Plan

/-- The texts of a plan in order. -/
def texts : Plan → List (Text × Text)
  | nothing => []
  | run texts => texts
  | both left right => left.texts ++ right.texts

/-- The index a plan gives. -/
def index : Plan → Index
  | nothing => empty
  | run texts => ofTexts texts
  | both left right => left.index.merge right.index

/-- The plan that halves a list of texts until single ones are left. -/
def halving (texts : List (Text × Text)) : Plan :=
  if texts.length < 2 then run texts
  else
    both (halving (texts.take (texts.length / 2)))
      (halving (texts.drop (texts.length / 2)))
termination_by texts.length
decreasing_by
  · simp only [List.length_take]; omega
  · simp only [List.length_drop]; omega

end Plan

end Index

end Concordance
