import Concordance.Index.Statistics
import Concordance.Proofs.Index.Corpus
import Mathlib.Algebra.BigOperators.Finprod
import Mathlib.Data.Set.Card

/-!
Contract: the counts of an index as counts of what it holds.

The four numbers are sums over the entries of nested maps. Here they become sizes
of finite sets, and for an index that represents a corpus they become counts that
mention the corpus alone.

Owns:
- the finite sets of documents and words of an index, and its counts over them;
- the counts of a corpus, which those of an index that represents it equal;
- the documents and the occurrences of an index of texts, counted in the texts.

Does not own: how an index comes to represent a corpus
(`Concordance.Proofs.Index.Corpus`).
-/

set_option autoImplicit false

namespace Concordance

open Std (ExtTreeMap)

namespace Index

theorem total_eq_sum (numbers : List Nat) : total numbers = numbers.sum := by
  induction numbers with
  | nil => rfl
  | cons number rest inductionHypothesis =>
      rw [List.sum_cons, ← inductionHypothesis]
      rfl

/-- Adding up over the entries of a map is adding up over its keys. -/
theorem total_map_toList {α : Type} (entries : ExtTreeMap Text α) (measure : α → Nat) :
    total (entries.toList.map fun entry => measure entry.2)
      = ∑ key ∈ entries.keys.toFinset, (entries[key]?).elim 0 measure := by
  rw [total_eq_sum, List.sum_toFinset _ ExtTreeMap.nodup_keys,
    ← ExtTreeMap.map_fst_toList_eq_keys, List.map_map]
  congr 1
  apply List.map_congr_left
  intro entry member
  have found : entries[entry.1]? = some entry.2 :=
    ExtTreeMap.mem_toList_iff_getElem?_eq_some.mp member
  rw [Function.comp_apply, found, Option.elim_some]

theorem size_eq_card {α : Type} (entries : ExtTreeMap Text α) :
    entries.size = entries.keys.toFinset.card := by
  rw [List.toFinset_card_of_nodup ExtTreeMap.nodup_keys, ExtTreeMap.length_keys]

/-! ## The finite sets of an index -/

/-- The documents of an index. -/
def knownDocuments (index : Index) : Finset Text := index.documents.keys.toFinset

/-- The words an index has an entry for. -/
def knownWords (index : Index) : Finset Text := index.terms.keys.toFinset

/-- The documents in which an index has a word. -/
def documentsOf (index : Index) (word : Text) : Finset Text :=
  ((index.postings? word).getD ∅).keys.toFinset

theorem mem_knownDocuments (index : Index) (document : Text) :
    document ∈ index.knownDocuments ↔ (index.cursor? document).isSome := by
  rw [knownDocuments, List.mem_toFinset, ExtTreeMap.mem_keys,
    ExtTreeMap.mem_iff_isSome_getElem?]
  rfl

theorem mem_knownWords (index : Index) (word : Text) :
    word ∈ index.knownWords ↔ (index.postings? word).isSome := by
  rw [knownWords, List.mem_toFinset, ExtTreeMap.mem_keys,
    ExtTreeMap.mem_iff_isSome_getElem?]
  rfl

theorem mem_documentsOf (index : Index) (word document : Text) :
    document ∈ index.documentsOf word ↔ (index.positions? word document).isSome := by
  rw [documentsOf, List.mem_toFinset, ExtTreeMap.mem_keys,
    ExtTreeMap.mem_iff_isSome_getElem?, positions?]
  cases index.postings? word <;> simp

/-- The counts of any index, over the words and documents it has. -/
theorem statistics_eq (index : Index) :
    index.statistics =
      { documents := index.knownDocuments.card,
        terms := index.knownWords.card,
        postings := ∑ word ∈ index.knownWords, (index.documentsOf word).card,
        positions := ∑ word ∈ index.knownWords, ∑ document ∈ index.documentsOf word,
          ((index.positions? word document).getD []).length } := by
  rw [statistics, documentCount, termCount, size_eq_card, size_eq_card,
    total_map_toList index.terms fun postings => postings.size,
    total_map_toList index.terms fun postings =>
      total (postings.toList.map fun posting => posting.2.length)]
  congr 1
  · apply Finset.sum_congr rfl
    intro word member
    obtain ⟨postings, found⟩ :=
      Option.isSome_iff_exists.mp ((mem_knownWords index word).mp member)
    rw [documentsOf, found, Option.getD_some, ← size_eq_card]
    exact congrArg (Option.elim · 0 _) found
  · apply Finset.sum_congr rfl
    intro word member
    obtain ⟨postings, found⟩ :=
      Option.isSome_iff_exists.mp ((mem_knownWords index word).mp member)
    refine (congrArg (Option.elim · 0 _) found).trans ?_
    rw [Option.elim_some, total_map_toList postings List.length, documentsOf, found,
      Option.getD_some]
    apply Finset.sum_congr rfl
    intro document _
    rw [positions?, found, Option.bind_some]
    cases postings[document]? <;> rfl

end Index

/-- The counts of a corpus: documents, words that occur, pairs of a word and a document
it occurs in, and words of all documents together. -/
noncomputable def Corpus.statistics (corpus : Corpus) : Index.Statistics where
  documents := {document | (corpus document).isSome}.ncard
  terms := {word | ∃ document, word ∈ corpus.wordsOf document}.ncard
  postings := {pair : Text × Text | pair.1 ∈ corpus.wordsOf pair.2}.ncard
  positions := ∑ᶠ document, (corpus.wordsOf document).length

/-- Words put at the end of a document count once. -/
theorem Corpus.positions_append {corpus : Corpus}
    (finite : {document | (corpus document).isSome}.Finite) (document : Text)
    (words : List Text) :
    (corpus.append document words).statistics.positions
      = corpus.statistics.positions + words.length := by
  have spread : ∀ other, ((corpus.append document words).wordsOf other).length
      = (corpus.wordsOf other).length + if other = document then words.length else 0 := by
    intro other
    rw [Corpus.wordsOf_append]
    by_cases same : document = other
    · rw [if_pos same, if_pos same.symm, List.length_append, same]
    · rw [if_neg same, if_neg (Ne.symm same), Nat.add_zero]
  have known : (Function.support fun other => (corpus.wordsOf other).length).Finite := by
    refine finite.subset fun other nonzero => ?_
    obtain ⟨word, member⟩ := List.exists_mem_of_length_pos (Nat.pos_of_ne_zero nonzero)
    exact Corpus.isSome_of_mem_wordsOf member
  have single : (Function.support fun other =>
      if other = document then words.length else 0).Finite := by
    refine (Set.finite_singleton document).subset fun other nonzero => ?_
    by_contra different
    exact nonzero (if_neg different)
  calc
    ∑ᶠ other, ((corpus.append document words).wordsOf other).length
        = ∑ᶠ other, ((corpus.wordsOf other).length
            + if other = document then words.length else 0) := finsum_congr spread
    _ = (∑ᶠ other, (corpus.wordsOf other).length)
          + ∑ᶠ other, if other = document then words.length else 0 :=
        finsum_add_distrib known single
    _ = (∑ᶠ other, (corpus.wordsOf other).length) + words.length := by
        rw [finsum_eq_single _ document fun other different => if_neg different, if_pos rfl]

namespace Index.Represents

variable {index : Index} {corpus : Corpus}

theorem mem_knownDocuments (represents : Represents index corpus) (document : Text) :
    document ∈ index.knownDocuments ↔ (corpus document).isSome := by
  rw [Index.mem_knownDocuments, represents.cursor, Option.isSome_map]

theorem mem_documentsOf (represents : Represents index corpus) (word document : Text) :
    document ∈ index.documentsOf word ↔ word ∈ corpus.wordsOf document := by
  rw [Index.mem_documentsOf, represents.isSome_positions?_iff]

theorem mem_knownWords (represents : Represents index corpus) (word : Text) :
    word ∈ index.knownWords ↔ ∃ document, word ∈ corpus.wordsOf document := by
  rw [Index.mem_knownWords, represents.isSome_postings?_iff]

/-- A corpus that an index represents knows finitely many documents. -/
theorem finite (represents : Represents index corpus) :
    {document | (corpus document).isSome}.Finite := by
  apply index.knownDocuments.finite_toSet.subset
  intro document known
  exact (represents.mem_knownDocuments document).mpr known

/-- Counting the pairs word by word. -/
theorem card_pairs (represents : Represents index corpus) :
    ∑ word ∈ index.knownWords, (index.documentsOf word).card
      = {pair : Text × Text | pair.1 ∈ corpus.wordsOf pair.2}.ncard := by
  rw [← Finset.card_sigma]
  have pairs : {pair : Text × Text | pair.1 ∈ corpus.wordsOf pair.2}
      = ((index.knownWords.sigma index.documentsOf).image
          fun pair => (pair.1, pair.2) : Finset (Text × Text)) := by
    ext pair
    simp only [Set.mem_ofPred_eq, Finset.coe_image, Set.mem_image, Finset.mem_coe,
      Finset.mem_sigma, represents.mem_documentsOf, represents.mem_knownWords]
    constructor
    · intro member
      exact ⟨⟨pair.1, pair.2⟩, ⟨⟨pair.2, member⟩, member⟩, rfl⟩
    · rintro ⟨found, ⟨_, member⟩, rfl⟩
      exact member
  rw [pairs, Set.ncard_coe_finset, Finset.card_image_of_injective]
  rintro ⟨word, document⟩ ⟨otherWord, otherDocument⟩ same
  cases same
  rfl

/-- Counting the occurrences word by word gives the words of all documents: summing
over the words of each document first, every word is met as often as it occurs. -/
theorem sum_lengths (represents : Represents index corpus) :
    ∑ word ∈ index.knownWords, ∑ document ∈ index.documentsOf word,
        ((index.positions? word document).getD []).length
      = ∑ᶠ document, (corpus.wordsOf document).length := by
  have exchanged : ∀ word document,
      word ∈ index.knownWords ∧ document ∈ index.documentsOf word ↔
        word ∈ (corpus.wordsOf document).toFinset ∧ document ∈ index.knownDocuments := by
    intro word document
    rw [represents.mem_knownWords, represents.mem_documentsOf, List.mem_toFinset,
      represents.mem_knownDocuments]
    exact ⟨fun both => ⟨both.2, Corpus.isSome_of_mem_wordsOf both.2⟩,
      fun both => ⟨⟨document, both.1⟩, both.1⟩⟩
  rw [Finset.sum_comm' exchanged,
    finsum_eq_sum_of_support_subset (s := index.knownDocuments)]
  · apply Finset.sum_congr rfl
    intro document _
    rw [← List.sum_toFinset_count_eq_length (corpus.wordsOf document)]
    apply Finset.sum_congr rfl
    intro word _
    rw [represents.getD_positions, List.length_idxsOf]
    -- Both sides count, but with two ways of comparing texts.
    exact congrArg (fun test => @List.count Text test word _)
      (lawful_beq_subsingleton _ _)
  · intro document nonzero
    rw [Function.mem_support] at nonzero
    obtain ⟨word, member⟩ := List.exists_mem_of_ne_nil _ (List.ne_nil_of_length_pos
      (Nat.pos_of_ne_zero nonzero))
    exact (represents.mem_knownDocuments document).mpr (Corpus.isSome_of_mem_wordsOf member)

/-- The counts of an index are those of the corpus it represents. -/
theorem statistics_eq (represents : Represents index corpus) :
    index.statistics = corpus.statistics := by
  rw [Index.statistics_eq, Corpus.statistics, represents.card_pairs,
    represents.sum_lengths]
  have documents :
      {document | (corpus document).isSome} = (index.knownDocuments : Set Text) := by
    ext document
    rw [Set.mem_ofPred_eq, Finset.mem_coe, represents.mem_knownDocuments]
  have words : {word | ∃ document, word ∈ corpus.wordsOf document}
      = (index.knownWords : Set Text) := by
    ext word
    rw [Set.mem_ofPred_eq, Finset.mem_coe, represents.mem_knownWords]
  rw [documents, words, Set.ncard_coe_finset, Set.ncard_coe_finset]

/-- Adding a text adds its words to the occurrences. -/
theorem positions_addText (represents : Represents index corpus) (document text : Text) :
    (index.addText document text).1.statistics.positions
      = index.statistics.positions + text.words.length := by
  rw [(represents.addText document text).1.statistics_eq, represents.statistics_eq,
    Corpus.addText, Corpus.positions_append represents.finite, List.length_map]

theorem positions_foldl_addText (represents : Represents index corpus)
    (texts : List (Text × Text)) :
    (texts.foldl (fun index entry => (index.addText entry.1 entry.2).1)
        index).statistics.positions
      = index.statistics.positions + total (texts.map fun entry => entry.2.words.length) := by
  induction texts generalizing index corpus with
  | nil => rfl
  | cons entry rest inductionHypothesis =>
      rw [List.foldl_cons, inductionHypothesis (represents.addText entry.1 entry.2).1,
        represents.positions_addText, Nat.add_assoc]
      rfl

end Index.Represents

namespace Index

/-- The occurrences in an index of texts are the words of the texts. -/
theorem positions_ofTexts (texts : List (Text × Text)) :
    (ofTexts texts).statistics.positions
      = total (texts.map fun entry => entry.2.words.length) := by
  have none : Index.empty.statistics.positions = 0 := rfl
  rw [ofTexts, Represents.empty.positions_foldl_addText, none, Nat.zero_add]

/-- The documents of an index of texts are those the texts are added for, each once. -/
theorem documentCount_ofTexts (texts : List (Text × Text)) :
    (ofTexts texts).documentCount = (texts.map Prod.fst).toFinset.card := by
  have known : (ofTexts texts).knownDocuments = (texts.map Prod.fst).toFinset := by
    ext document
    rw [(Represents.ofTexts texts).mem_knownDocuments, Corpus.isSome_ofTexts_iff,
      List.mem_toFinset]
  rw [documentCount, size_eq_card, ← known]
  rfl

end Index

end Concordance
