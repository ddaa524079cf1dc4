import Concordance.Proofs.Index.Merging
import Concordance.Proofs.Query.Meaning

/-!
Contract: a query of a merged index gives what the queries of its parts give together.

Whether a document satisfies a tree depends on the positions of words in this document
alone. A merge leaves the positions of a document as they are unless both sides know the
document, so that each document is judged as it is in the part that knows it. No part
needs to know which documents the others are complemented against.

Owns:
- that documents are judged by their own positions;
- that evaluation distributes over a merge of indexes without common documents.

Does not own: the positions in a merge (`Concordance.Proofs.Index.Merging`).
-/

set_option autoImplicit false

namespace Concordance

namespace Index

theorem AgreesOn.standsAt_iff {index other : Index} {document : Text}
    (agrees : index.AgreesOn other document) (word : Text) (position : Nat) :
    index.StandsAt word document position ↔ other.StandsAt word document position := by
  rw [StandsAt, StandsAt, agrees word]

end Index

namespace Query

/-! ## Documents judged by their own positions -/

variable {index other : Index} {document : Text}

theorem Literal.holds_congr (agrees : index.AgreesOn other document) (literal : Literal) :
    literal.Holds index document ↔ literal.Holds other document := by
  unfold Literal.Holds
  simp only [agrees.standsAt_iff]

theorem Tree.satisfied_of_agreesOn (agrees : index.AgreesOn other document) (tree : Tree) :
    tree.Satisfied (Literal.Holds index document) ↔
      tree.Satisfied (Literal.Holds other document) :=
  Tree.satisfied_congr (Literal.holds_congr agrees) tree

/-! ## Evaluation -/

/-- A merge of two valid indexes that know no document in common answers every tree with
the documents that either of them answers it with. -/
theorem evaluate_merge (valid : index.isValid = true) (otherValid : other.isValid = true)
    (apart : ∀ document ∈ index.allDocuments, document ∉ other.allDocuments) (tree : Tree) :
    evaluate (index.merge other) tree = evaluate index tree ∪ evaluate other tree := by
  have sound := (Index.isValid_iff index).mp valid
  have others := (Index.isValid_iff other).mp otherValid
  apply Std.ExtTreeSet.ext_mem
  intro document
  rw [Std.ExtTreeSet.mem_union_iff, mem_evaluate_of_sound (sound.merge others),
    mem_evaluate_of_sound sound, mem_evaluate_of_sound others, Index.mem_allDocuments_merge]
  by_cases known : document ∈ index.allDocuments
  · have unknown := apart document known
    rw [Tree.satisfied_of_agreesOn (Index.agreesOn_merge_left others unknown)]
    simp [known, unknown]
  · rw [Tree.satisfied_of_agreesOn (Index.agreesOn_merge_right sound known)]
    simp [known]

/-- A second index, with a document that has the words of the phrase in the other order and
one that has no words. -/
def supperIndex : Index :=
  Index.ofTexts [("bear", "The brown bear, quick!"), ("snow", "1234")]

/-- The tree negates a disjunction, and each index answers it with other documents. -/
theorem evaluate_merge_lunchTree :
    lunchIndex.isValid = true ∧ supperIndex.isValid = true ∧
      "lunch".toList ∈ lunchIndex.allDocuments ∧
      (∀ document ∈ lunchIndex.allDocuments, document ∉ supperIndex.allDocuments) ∧
      evaluate (lunchIndex.merge supperIndex) lunchTree
        = evaluate lunchIndex lunchTree ∪ evaluate supperIndex lunchTree ∧
      (evaluate (lunchIndex.merge supperIndex) lunchTree).toList = ["bear", "lunch"] := by
  have valid : lunchIndex.isValid = true := by decide +kernel
  have otherValid : supperIndex.isValid = true := by decide +kernel
  have apart : ∀ document ∈ lunchIndex.allDocuments,
      document ∉ supperIndex.allDocuments := by
    intro document member
    rw [← Std.ExtTreeSet.mem_toList] at member
    revert document
    decide +kernel
  exact ⟨valid, otherValid, by decide +kernel, apart,
    evaluate_merge valid otherValid apart lunchTree, by decide +kernel⟩

end Query

end Concordance
