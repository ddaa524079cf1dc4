import Concordance.Index.Lookup
import Concordance.Index.Phrase
import Concordance.Journal
import Concordance.Query.Tree

/-!
Contract: the documents that match a query tree.

Evaluation never fails: a word the index does not know is in no document.

Owns:
- `documentsFor`, the documents of a literal;
- `evaluate`, the documents of a tree;
- the records of an evaluation.

Does not own: parsing (`Concordance.Query.Parser`).
-/

set_option autoImplicit false

namespace Concordance.Query

open Concordance.Journal (Record)

/-- The documents that contain every word of a literal, as a run where it is a
phrase. A literal without words matches nothing. -/
def Literal.documents (index : Index) (literal : Literal) : DocumentSet :=
  match literal.words with
  | [] => ∅
  | first :: rest =>
      let containing := rest.foldl
        (fun found word =>
          if found.isEmpty then found else found.intersection (index.documentsWith word))
        (index.documentsWith first)
      if literal.phrase && 1 < literal.words.length then
        containing.filter fun document => index.hasPhrase document literal.words
      else containing

/-- The documents a connective selects. The right side is not looked at when
nothing on the left can be kept. -/
def Connective.documents (connective : Connective) (left : DocumentSet)
    (right : Unit → DocumentSet) : DocumentSet :=
  match connective with
  | .and => if left.isEmpty then left else left.intersection (right ())
  | .or => left.union (right ())

/-- The documents of a node whose content matches `found`. -/
def Mark.documents (index : Index) (mark : Mark) (found : DocumentSet) : DocumentSet :=
  if mark.negated then index.complement found else found

/-- The word of a negated literal that has just one. -/
def excludedWord? (mark : Mark) (literal : Literal) : Option Text :=
  match literal.words with
  | [word] => if mark.negated then some word else none
  | _ => none

/-- The documents that match a tree. -/
def evaluate (index : Index) : Tree → DocumentSet
  | .literal mark literal =>
      match excludedWord? mark literal with
      | some word => index.documentsWithout word
      | none => mark.documents index (literal.documents index)
  | .binary mark connective left right =>
      mark.documents index
        (connective.documents (evaluate index left) fun _ => evaluate index right)

/-- The record of one evaluated node. -/
def nodeRecord (index : Index) (tree : Tree) : Record :=
  ⟨.trace, .evaluation,
    Text.concat
      [tree.render, " matched ", Text.decimal (evaluate index tree).size, " documents"]⟩

/-- The records of an evaluation: one for every node that is looked at, after the
nodes below it. -/
def evaluationRecords (index : Index) : Tree → List Record
  | .literal mark literal => [nodeRecord index (.literal mark literal)]
  | .binary mark connective left right =>
      evaluationRecords index left
        ++ (if connective = .and && (evaluate index left).isEmpty then []
            else evaluationRecords index right)
        ++ [nodeRecord index (.binary mark connective left right)]

end Concordance.Query
