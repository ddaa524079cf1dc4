import Concordance.Proofs.Index.Run
import Concordance.Query.Evaluation

/-!
Contract: what a query tree means, and that evaluation finds it.

The meaning of a tree is a statement about one document. Evaluation works on whole
sets and takes short cuts: a negated word is looked up directly, nothing is
intersected with an empty set, and a single word is never checked as a phrase.

Owns:
- the truth of a tree over any reading of its literals;
- the reading of literals by an index;
- that evaluation finds the documents in which a tree is true.

Does not own: meanings over lists of words (`Concordance.Proofs.Query.Answer`).
-/

set_option autoImplicit false

namespace Concordance.Query

/-! ## Truth of trees -/

/-- A statement, or its denial under an exclamation mark. -/
def Mark.Applied (mark : Mark) (statement : Prop) : Prop :=
  if mark.negated then ¬statement else statement

/-- The statement a connective makes of two. -/
def Connective.Joined (connective : Connective) (left right : Prop) : Prop :=
  match connective with
  | .and => left ∧ right
  | .or => left ∨ right

/-- Whether a tree is true where `holds` tells which literals are. -/
def Tree.Satisfied (holds : Literal → Prop) : Tree → Prop
  | .literal mark content => mark.Applied (holds content)
  | .binary mark connective left right =>
      mark.Applied (connective.Joined (left.Satisfied holds) (right.Satisfied holds))

/-- Trees are true alike under readings that agree on all literals. -/
theorem Tree.satisfied_congr {holds other : Literal → Prop}
    (agree : ∀ literal, holds literal ↔ other literal) (tree : Tree) :
    tree.Satisfied holds ↔ tree.Satisfied other := by
  have same : holds = other := funext fun literal => propext (agree literal)
  rw [same]

/-- Whether a literal with at least one word holds in a document: each of its words
stands somewhere, and those of a phrase stand at consecutive positions. -/
def Literal.Holds (index : Index) (document : Text) (literal : Literal) : Prop :=
  literal.words ≠ [] ∧
    if literal.phrase then
      ∃ start, ∀ offset word, literal.words[offset]? = some word →
        index.StandsAt word document (start + offset)
    else ∀ word ∈ literal.words, ∃ position, index.StandsAt word document position

/-- A phrase that holds has each of its words somewhere. -/
theorem Literal.Holds.stands {index : Index} {document : Text} {literal : Literal}
    (holds : literal.Holds index document) :
    ∀ word ∈ literal.words, ∃ position, index.StandsAt word document position := by
  obtain ⟨_, condition⟩ := holds
  split at condition
  · obtain ⟨start, stands⟩ := condition
    intro word member
    obtain ⟨offset, here⟩ := List.mem_iff_getElem?.mp member
    exact ⟨start + offset, stands offset word here⟩
  · exact condition

/-- In a phrase of one word there is nothing but the word to be looked for. -/
theorem Literal.holds_singleton (index : Index) (document word : Text) (phrase : Bool) :
    Literal.Holds index document ⟨[word], phrase⟩ ↔
      ∃ position, index.StandsAt word document position := by
  constructor
  · intro holds
    exact holds.stands word List.mem_cons_self
  · rintro ⟨position, stands⟩
    refine ⟨List.cons_ne_nil _ _, ?_⟩
    cases phrase with
    | false =>
        intro other member
        cases List.mem_singleton.mp member
        exact ⟨position, stands⟩
    | true =>
        refine ⟨position, fun offset other here => ?_⟩
        cases offset with
        | zero =>
            cases here
            exact stands
        | succ offset => cases here

/-! ## Evaluation of a literal -/

/-- Stopping at an empty set leaves the same documents as going on. -/
theorem mem_foldl_inter (index : Index) (document : Text) (words : List Text)
    (start : DocumentSet) :
    document ∈ words.foldl
        (fun found word =>
          if found.isEmpty then found else found.intersection (index.documentsWith word))
        start ↔
      document ∈ start ∧ ∀ word ∈ words, document ∈ index.documentsWith word := by
  induction words generalizing start with
  | nil => simp
  | cons word rest inductionHypothesis =>
      rw [List.foldl_cons, inductionHypothesis, List.forall_mem_cons]
      split
      · rename_i empty
        have absent : document ∉ start := by
          rw [Std.ExtTreeSet.isEmpty_iff.mp empty]
          exact Std.ExtTreeSet.not_mem_empty
        exact ⟨fun both => absurd both.1 absent, fun both => absurd both.1 absent⟩
      · rw [DocumentSet.mem_intersection, and_assoc]

theorem Literal.mem_documents_iff {index : Index} (sound : index.Sound) (literal : Literal)
    (document : Text) :
    document ∈ literal.documents index ↔ literal.Holds index document := by
  obtain ⟨words, phrase⟩ := literal
  cases words with
  | nil =>
      rw [Literal.documents]
      exact ⟨fun impossible => absurd impossible Std.ExtTreeSet.not_mem_empty,
        fun holds => absurd rfl holds.1⟩
  | cons first rest =>
      have containing : ∀ documents, documents = rest.foldl
            (fun found word =>
              if found.isEmpty then found else found.intersection (index.documentsWith word))
            (index.documentsWith first) →
          (document ∈ documents ↔
            ∀ word ∈ first :: rest, ∃ position, index.StandsAt word document position) := by
        rintro documents rfl
        simp only [mem_foldl_inter, List.forall_mem_cons, Index.mem_documentsWith,
          sound.isSome_positions?_iff]
      rw [Literal.documents]
      dsimp only
      by_cases filtered : (phrase && decide (1 < (first :: rest).length)) = true
      · have quoted : phrase = true := by
          rw [Bool.and_eq_true] at filtered
          exact filtered.1
        rw [if_pos filtered, DocumentSet.mem_filter, containing _ rfl,
          Index.hasPhrase_iff sound document (List.cons_ne_nil _ _)]
        subst quoted
        constructor
        · rintro ⟨_, run⟩
          exact ⟨List.cons_ne_nil _ _, run⟩
        · intro holds
          exact ⟨holds.stands, holds.2⟩
      · rw [if_neg filtered, containing _ rfl]
        cases phrase with
        | false => exact ⟨fun all => ⟨List.cons_ne_nil _ _, all⟩, fun holds => holds.2⟩
        | true =>
            -- An unfiltered phrase has one word only.
            cases rest with
            | nil => rw [Literal.holds_singleton, List.forall_mem_singleton]
            | cons second others => simp at filtered

/-- A literal holds in documents of the index only. -/
theorem Literal.Holds.mem_allDocuments {index : Index} (sound : index.Sound)
    {document : Text} {literal : Literal} (holds : literal.Holds index document) :
    document ∈ index.allDocuments := by
  obtain ⟨word, member⟩ := List.exists_mem_of_ne_nil _ holds.1
  have listed := (sound.isSome_positions?_iff word document).mpr (holds.stands word member)
  obtain ⟨positions, found⟩ := Option.isSome_iff_exists.mp listed
  rw [Index.mem_allDocuments]
  exact sound.known found

/-! ## Evaluation of a tree -/

theorem Connective.mem_documents_iff (connective : Connective) (left right : DocumentSet)
    (document : Text) :
    document ∈ connective.documents left (fun _ => right) ↔
      connective.Joined (document ∈ left) (document ∈ right) := by
  cases connective with
  | or => exact DocumentSet.mem_union left right document
  | and =>
      rw [Connective.documents, Connective.Joined]
      split
      · rename_i empty
        rw [Std.ExtTreeSet.isEmpty_iff.mp empty]
        simp
      · exact DocumentSet.mem_intersection left right document

/-- The documents of a node, negated or not, are documents of the index with the
statement that the mark makes of the content's. -/
theorem Mark.mem_documents_iff (index : Index) (mark : Mark) (found : DocumentSet)
    {document : Text} {statement : Prop}
    (content : document ∈ found ↔ document ∈ index.allDocuments ∧ statement) :
    document ∈ mark.documents index found ↔
      document ∈ index.allDocuments ∧ mark.Applied statement := by
  unfold Mark.documents Mark.Applied
  split
  · rw [Index.mem_complement, content]
    exact and_congr_right fun known => not_congr (and_iff_right known)
  · exact content

theorem eq_of_excludedWord? {mark : Mark} {literal : Literal} {word : Text}
    (excluded : excludedWord? mark literal = some word) :
    mark.negated = true ∧ literal.words = [word] := by
  unfold excludedWord? at excluded
  split at excluded
  · rename_i single found
    split at excluded
    · cases excluded
      exact ⟨‹_›, found⟩
    · cases excluded
  · cases excluded

theorem mem_evaluate_of_sound {index : Index} (sound : index.Sound) (tree : Tree)
    (document : Text) :
    document ∈ evaluate index tree ↔
      document ∈ index.allDocuments ∧ tree.Satisfied (Literal.Holds index document) := by
  have literal : ∀ content : Literal, document ∈ content.documents index ↔
      document ∈ index.allDocuments ∧ content.Holds index document := by
    intro content
    rw [content.mem_documents_iff sound]
    exact ⟨fun holds => ⟨holds.mem_allDocuments sound, holds⟩, fun both => both.2⟩
  induction tree with
  | literal mark content =>
      rw [evaluate, Tree.Satisfied]
      cases excluded : excludedWord? mark content with
      | none => exact mark.mem_documents_iff index _ (literal content)
      | some word =>
          obtain ⟨negated, single⟩ := eq_of_excludedWord? excluded
          obtain ⟨words, phrase⟩ := content
          cases single
          dsimp only
          rw [Index.documentsWithout_eq, Index.mem_complement, Index.mem_documentsWith,
            sound.isSome_positions?_iff, Mark.Applied, if_pos negated,
            Literal.holds_singleton]
  | binary mark connective left right leftHypothesis rightHypothesis =>
      rw [evaluate, Tree.Satisfied]
      apply mark.mem_documents_iff
      rw [Connective.mem_documents_iff]
      cases connective with
      | and => exact (and_congr leftHypothesis rightHypothesis).trans and_and_left.symm
      | or => exact (or_congr leftHypothesis rightHypothesis).trans and_or_left.symm

/-- Evaluation finds the documents of a valid index in which the tree is true. -/
theorem mem_evaluate_iff {index : Index} (valid : index.isValid = true) (tree : Tree)
    (document : Text) :
    document ∈ evaluate index tree ↔
      document ∈ index.allDocuments ∧ tree.Satisfied (Literal.Holds index document) :=
  mem_evaluate_of_sound ((Index.isValid_iff index).mp valid) tree document

/-- Two documents with words in common, and one without words. -/
def lunchIndex : Index :=
  Index.ofTexts [("fox", "The quick brown fox"), ("lunch", "a quick lunch"), ("none", "42")]

/-- Neither the words `quick brown` as a phrase nor the absence of `quick`. -/
def lunchTree : Tree :=
  .binary ⟨true, ⟨0, 27⟩⟩ .or (.literal ⟨false, ⟨2, 15⟩⟩ ⟨["quick", "brown"], true⟩)
    (.literal ⟨true, ⟨18, 24⟩⟩ ⟨["quick"], false⟩)

/-- Of the three documents only one satisfies the negated tree. -/
theorem mem_evaluate_lunchTree :
    lunchIndex.isValid = true ∧ lunchTree.Satisfied (Literal.Holds lunchIndex "lunch") ∧
      ¬("fox".toList ∈ lunchIndex.allDocuments ∧
        lunchTree.Satisfied (Literal.Holds lunchIndex "fox")) := by
  have valid : lunchIndex.isValid = true := by decide +kernel
  refine ⟨valid, ?_, ?_⟩
  · exact ((mem_evaluate_iff valid lunchTree "lunch").mp (by decide +kernel)).2
  · exact fun both => absurd ((mem_evaluate_iff valid lunchTree "fox").mpr both)
      (by decide +kernel)

end Concordance.Query
