import Concordance.Proofs.Index.Sound

/-!
Contract: indexing in parts gives the index of the whole.

Merging the corpus of some texts into another one is adding the texts to it, so the
corpus of a plan is that of its texts in order, however the plan is shaped. An index is
no more than what it holds of its corpus, and so the index of a plan depends on the
texts alone.

Owns:
- merging corpora as an action of lists of texts;
- that an index is determined by the corpus it represents;
- the index of a plan.

Does not own: merging indexes that represent no corpus.
-/

set_option autoImplicit false

namespace Concordance

open Std (ExtTreeMap)

namespace Corpus

theorem merge_empty (corpus : Corpus) : corpus.merge empty = corpus := rfl

/-- Words put at the end of the second side stand at the end of both. -/
theorem merge_append (corpus other : Corpus) (document : Text) (words : List Text) :
    corpus.merge (other.append document words)
      = (corpus.merge other).append document words := by
  funext inspected
  rw [append_apply, wordsOf_merge]
  unfold merge
  rw [append_apply]
  by_cases same : document = inspected
  · rw [if_pos same, if_pos same, same, List.append_assoc]
  · rw [if_neg same, if_neg same]

/-- Merging what texts add to a corpus is adding the texts to the merged corpus. -/
theorem merge_foldl_addText (corpus other : Corpus) (texts : List (Text × Text)) :
    corpus.merge (texts.foldl (fun corpus entry => (corpus.addText entry.1 entry.2).1) other)
      = texts.foldl (fun corpus entry => (corpus.addText entry.1 entry.2).1)
          (corpus.merge other) := by
  induction texts generalizing other with
  | nil => rfl
  | cons entry rest inductionHypothesis =>
      rw [List.foldl_cons, List.foldl_cons, inductionHypothesis, addText, merge_append]
      rfl

theorem ofTexts_append (first second : List (Text × Text)) :
    ofTexts (first ++ second) = (ofTexts first).merge (ofTexts second) := by
  rw [ofTexts, List.foldl_append, ofTexts, ofTexts, merge_foldl_addText, merge_empty]

end Corpus

namespace Index

/-! ## Equal indexes -/

/-- Indexes are equal if they have the same words, with the same positions, and the same
documents, with the same cursors. -/
theorem ext_found {index other : Index}
    (cursors : ∀ document, index.cursor? document = other.cursor? document)
    (words : ∀ word, (index.postings? word).isSome ↔ (other.postings? word).isSome)
    (positions : ∀ word document,
      index.positions? word document = other.positions? word document) :
    index = other := by
  obtain ⟨terms, documents⟩ := index
  obtain ⟨otherTerms, otherDocuments⟩ := other
  have sameDocuments : documents = otherDocuments := ExtTreeMap.ext_getElem? cursors
  have sameTerms : terms = otherTerms := by
    refine ExtTreeMap.ext_getElem? fun word => ?_
    have both : terms[word]?.isSome ↔ otherTerms[word]?.isSome := words word
    have entries : ∀ document, (terms[word]?.bind fun postings => postings[document]?)
        = otherTerms[word]?.bind fun postings => postings[document]? := positions word
    cases found : terms[word]? with
    | none =>
        rw [found] at both
        cases there : otherTerms[word]? with
        | none => rfl
        | some postings => simp [there] at both
    | some postings =>
        rw [found] at both
        cases there : otherTerms[word]? with
        | none => simp [there] at both
        | some others =>
            rw [found, there] at entries
            exact congrArg some (ExtTreeMap.ext_getElem? entries)
  rw [sameDocuments, sameTerms]

/-- A corpus is represented by one index. -/
theorem Represents.unique {index other : Index} {corpus : Corpus}
    (represents : Represents index corpus) (others : Represents other corpus) :
    index = other := by
  refine ext_found (fun document => ?_) (fun word => ?_) (fun word document => ?_)
  · rw [represents.cursor, others.cursor]
  · rw [represents.isSome_postings?_iff, others.isSome_postings?_iff]
  · rw [represents.positions, others.positions]

/-! ## Plans -/

namespace Plan

/-- The induction is on the plan: where it has two parts, the second adds its texts to
what the first has. -/
theorem represents (plan : Plan) : Represents plan.index (Corpus.ofTexts plan.texts) := by
  induction plan with
  | nothing => exact Represents.empty
  | run texts => exact Represents.ofTexts texts
  | both left right leftHypothesis rightHypothesis =>
      rw [texts, Corpus.ofTexts_append]
      exact leftHypothesis.merge rightHypothesis

theorem texts_halving (texts : List (Text × Text)) : (halving texts).texts = texts := by
  fun_induction halving texts with
  | case1 texts short => rfl
  | case2 texts long firstHypothesis secondHypothesis =>
      rw [Plan.texts, firstHypothesis, secondHypothesis, List.take_append_drop]

/-- Every plan gives the index of its texts added one after another, which is valid, and
halving is a plan for the texts it is given. -/
theorem index_eq_ofTexts :
    (∀ plan : Plan, plan.index = ofTexts plan.texts ∧ plan.index.isValid = true) ∧
    ∀ texts, (halving texts).texts = texts := by
  refine ⟨fun plan => ⟨plan.represents.unique (Represents.ofTexts plan.texts), ?_⟩,
    texts_halving⟩
  rw [isValid_iff]
  exact plan.represents.sound

/-- A document spread over three parts of a plan. -/
example :
    (both (run [("a", "red"), ("b", "blue")])
      (both nothing (both (run [("a", "red fish")]) (run [("a", "fish")])))).index.positions?
        "fish" "a" = some [3, 4] := by
  decide +kernel

end Plan

end Index

end Concordance
