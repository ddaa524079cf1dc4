import Concordance.Proofs.Index.Access
import Mathlib.Data.List.Basic

/-!
Contract: the texts that an index stands for.

A corpus is a plain map from documents to sequences of words. It is changed by
appending, so that it is what an index would be without any positions. An index
represents a corpus if its cursors are the lengths of the sequences and its
positions the places of the words in them, counted from one.

Owns:
- corpora, the two ways of changing them and the corpus of a list of texts;
- the relation `Represents`, and that both changes keep it.

Does not own: the counts of an index (`Concordance.Proofs.Index.Counting`) and
runs of many changes (`Concordance.Proofs.Index.Program`).
-/

set_option autoImplicit false

namespace Concordance

/-- The words of every known document, in order. -/
abbrev Corpus := Text → Option (List Text)

namespace Corpus

/-- The corpus that knows no document. -/
def empty : Corpus := fun _ => none

/-- The words of a document. A document that is not known has none. -/
def wordsOf (corpus : Corpus) (document : Text) : List Text := (corpus document).getD []

/-- The corpus with words put at the end of a document, which is known afterwards. -/
def append (corpus : Corpus) (document : Text) (words : List Text) : Corpus :=
  Function.update corpus document (some (corpus.wordsOf document ++ words))

/-- The corpus with the words of a text put at the end of a document, and their
number. -/
def addText (corpus : Corpus) (document text : Text) : Corpus × Nat :=
  (corpus.append document (text.words.map (·.text)), text.words.length)

/-- The corpus with the words of each document of another one put at its end. -/
def merge (corpus other : Corpus) : Corpus := fun document =>
  match other document with
  | none => corpus document
  | some words => some (corpus.wordsOf document ++ words)

/-- The corpus of a list of documents with their texts, added one after another. -/
def ofTexts (texts : List (Text × Text)) : Corpus :=
  texts.foldl (fun corpus entry => (corpus.addText entry.1 entry.2).1) empty

theorem append_append (corpus : Corpus) (document : Text) (first second : List Text) :
    (corpus.append document first).append document second
      = corpus.append document (first ++ second) := by
  simp [append, wordsOf, Function.update_idem, List.append_assoc]

/-- Appending nothing changes nothing where the document is known. -/
theorem append_nil {corpus : Corpus} {document : Text} {words : List Text}
    (known : corpus document = some words) : corpus.append document [] = corpus := by
  rw [append, wordsOf, known, Option.getD_some, List.append_nil, ← known,
    Function.update_eq_self]

theorem append_apply (corpus : Corpus) (document other : Text) (words : List Text) :
    corpus.append document words other =
      if document = other then some (corpus.wordsOf document ++ words)
      else corpus other := by
  by_cases same : document = other
  · subst same
    simp [append]
  · rw [if_neg same, append, Function.update_of_ne (Ne.symm same)]

theorem wordsOf_append (corpus : Corpus) (document other : Text) (words : List Text) :
    (corpus.append document words).wordsOf other =
      if document = other then corpus.wordsOf document ++ words
      else corpus.wordsOf other := by
  unfold wordsOf
  rw [append_apply]
  split <;> rfl

/-- Only documents that are known have words. -/
theorem isSome_of_mem_wordsOf {corpus : Corpus} {word document : Text}
    (member : word ∈ corpus.wordsOf document) : (corpus document).isSome := by
  cases found : corpus document with
  | none => simp [wordsOf, found] at member
  | some words => rfl

/-- Adding texts makes their documents known, whether the texts have words or not. -/
theorem isSome_foldl_addText (texts : List (Text × Text)) (corpus : Corpus)
    (document : Text) :
    (texts.foldl (fun corpus entry => (corpus.addText entry.1 entry.2).1) corpus
      document).isSome ↔ (corpus document).isSome ∨ document ∈ texts.map Prod.fst := by
  induction texts generalizing corpus with
  | nil => simp
  | cons entry rest inductionHypothesis =>
      have added : (corpus.addText entry.1 entry.2).1
          = corpus.append entry.1 (entry.2.words.map (·.text)) := rfl
      rw [List.foldl_cons, inductionHypothesis, added, append_apply, List.map_cons,
        List.mem_cons]
      by_cases same : entry.1 = document
      · simp [same]
      · have different : document ≠ entry.1 := Ne.symm same
        simp [same, different]

theorem isSome_ofTexts_iff (texts : List (Text × Text)) (document : Text) :
    (ofTexts texts document).isSome ↔ document ∈ texts.map Prod.fst := by
  refine (isSome_foldl_addText texts empty document).trans ?_
  simp [empty]

theorem wordsOf_merge (corpus other : Corpus) (document : Text) :
    (corpus.merge other).wordsOf document =
      corpus.wordsOf document ++ other.wordsOf document := by
  unfold wordsOf merge
  cases other document <;> simp [wordsOf]

end Corpus

namespace Index

theorem idxsOf_eq_nil {word : Text} {words : List Text} (absent : word ∉ words)
    (start : Nat) : List.idxsOf word words start = [] := by
  rw [List.idxsOf_eq_nil_iff]
  intro found member
  rw [beq_eq_false_iff_ne]
  rintro rfl
  exact absent member

/-- What an index holds of a corpus: the length of every document, and the places
of every word, from one, in the documents that have it. No word is kept that occurs
nowhere. -/
structure Represents (index : Index) (corpus : Corpus) : Prop where
  cursor : ∀ document, index.cursor? document = (corpus document).map List.length
  positions : ∀ word document, index.positions? word document =
    if word ∈ corpus.wordsOf document then
      some (List.idxsOf word (corpus.wordsOf document) 1)
    else none
  inhabited : ∀ (word : Text) (postings : Postings), index.postings? word = some postings →
    ∃ document : Text, (postings[document]?).isSome

namespace Represents

variable {index other : Index} {corpus added : Corpus}

theorem getD_cursor (represents : Represents index corpus) (document : Text) :
    (index.cursor? document).getD 0 = (corpus.wordsOf document).length := by
  rw [represents.cursor, Corpus.wordsOf]
  cases corpus document <;> rfl

/-- The list of places is empty exactly where there is no list of positions. -/
theorem getD_positions (represents : Represents index corpus) (word document : Text) :
    (index.positions? word document).getD []
      = List.idxsOf word (corpus.wordsOf document) 1 := by
  rw [represents.positions]
  split
  · rfl
  · rename_i absent
    rw [Option.getD_none, idxsOf_eq_nil absent 1]

/-- Positions are listed for the words that occur in a document. -/
theorem isSome_positions?_iff (represents : Represents index corpus) (word document : Text) :
    (index.positions? word document).isSome ↔ word ∈ corpus.wordsOf document := by
  rw [represents.positions]
  split <;> simp [*]

/-- Entries are kept for the words that occur in some document. -/
theorem isSome_postings?_iff (represents : Represents index corpus) (word : Text) :
    (index.postings? word).isSome ↔ ∃ document, word ∈ corpus.wordsOf document := by
  simp only [← represents.isSome_positions?_iff]
  constructor
  · intro known
    obtain ⟨postings, found⟩ := Option.isSome_iff_exists.mp known
    obtain ⟨document, present⟩ := represents.inhabited word postings found
    exact ⟨document, by rw [positions?, found]; exact present⟩
  · rintro ⟨document, present⟩
    rw [positions?] at present
    cases found : index.postings? word with
    | none => simp [found] at present
    | some postings => rfl

theorem empty : Represents Index.empty Corpus.empty where
  cursor := fun document => by rw [cursor?_empty]; rfl
  positions := fun word document => by rw [positions?_empty]; rfl
  inhabited := fun word postings found => by
    rw [postings?_empty] at found
    cases found

/-! ## Adding a text -/

theorem addDocument (represents : Represents index corpus) (document : Text) :
    Represents (index.addDocument document) (corpus.append document []) where
  cursor := fun other => by
    rw [cursor?_addDocument, Corpus.append_apply, represents.getD_cursor,
      represents.cursor]
    split <;> simp
  positions := fun word other => by
    rw [positions?_addDocument, represents.positions, Corpus.wordsOf_append]
    by_cases same : document = other
    · subst same
      rw [if_pos rfl, List.append_nil]
    · rw [if_neg same]
  inhabited := fun word postings found => by
    rw [postings?_addDocument] at found
    exact represents.inhabited word postings found

/-- A word goes to the place after the last one of its document. -/
theorem addWord {document : Text} {words : List Text}
    (represents : Represents index corpus) (known : corpus document = some words)
    (word : Text) :
    Represents (index.addWord document word) (corpus.append document [word]) := by
  have cursor : index.cursor? document = some words.length := by
    rw [represents.cursor, known]
    rfl
  have wordsOf : corpus.wordsOf document = words := by
    rw [Corpus.wordsOf, known]
    rfl
  refine ⟨fun other => ?_, fun inspected other => ?_, fun inspected postings found => ?_⟩
  · rw [cursor?_addWord cursor, Corpus.append_apply, represents.cursor, wordsOf]
    split <;> simp
  · rw [positions?_addWord cursor, Corpus.wordsOf_append, wordsOf,
      represents.getD_positions, represents.positions, wordsOf]
    by_cases sameDocument : document = other
    · subst sameDocument
      by_cases sameWord : word = inspected
      · subst sameWord
        simp [Nat.add_comm]
      · have different : inspected ≠ word := Ne.symm sameWord
        simp [sameWord, different, wordsOf]
    · simp [sameDocument]
  · rw [postings?_addWord cursor] at found
    split at found
    · cases found
      exact ⟨document, by rw [Postings.getElem?_record, if_pos rfl]; rfl⟩
    · exact represents.inhabited inspected postings found

/-- Adding words one after another appends them all. -/
theorem foldl_addWord {document : Text} (words : List Text.Word)
    (represents : Represents index corpus) (known : (corpus document).isSome) :
    Represents (words.foldl (fun grown word => grown.addWord document word.text) index)
      (corpus.append document (words.map (·.text))) := by
  induction words generalizing index corpus with
  | nil =>
      obtain ⟨present, found⟩ := Option.isSome_iff_exists.mp known
      rw [List.map_nil, Corpus.append_nil found]
      exact represents
  | cons word rest inductionHypothesis =>
      obtain ⟨present, found⟩ := Option.isSome_iff_exists.mp known
      have stillKnown : (corpus.append document [word.text] document).isSome := by
        rw [Corpus.append_apply, if_pos rfl]
        rfl
      have represented := inductionHypothesis (represents.addWord found word.text) stillKnown
      rw [Corpus.append_append] at represented
      exact represented

theorem addText (represents : Represents index corpus) (document text : Text) :
    Represents (index.addText document text).1 (corpus.addText document text).1 ∧
      (index.addText document text).2 = (corpus.addText document text).2 := by
  have known : (corpus.append document [] document).isSome := by
    rw [Corpus.append_apply, if_pos rfl]
    rfl
  have represented := (represents.addDocument document).foldl_addWord text.words known
  rw [Corpus.append_append, List.nil_append] at represented
  rw [addText_eq]
  exact ⟨represented, rfl⟩

theorem foldl_addText (represents : Represents index corpus) (texts : List (Text × Text)) :
    Represents (texts.foldl (fun index entry => (index.addText entry.1 entry.2).1) index)
      (texts.foldl (fun corpus entry => (corpus.addText entry.1 entry.2).1) corpus) := by
  induction texts generalizing index corpus with
  | nil => exact represents
  | cons entry rest inductionHypothesis =>
      exact inductionHypothesis (represents.addText entry.1 entry.2).1

theorem ofTexts (texts : List (Text × Text)) :
    Represents (Index.ofTexts texts) (Corpus.ofTexts texts) :=
  empty.foldl_addText texts

/-! ## Merging -/

/-- Positions of the second side move by the length the document has on the first. -/
theorem shiftFor (represents : Represents index corpus)
    (others : Represents other added) {document : Text} {words : List Text}
    (known : added document = some words) :
    index.shiftFor other document = (corpus.wordsOf document).length := by
  have present : other.hasDocument document = true := by
    rw [hasDocument_eq_isSome_cursor?, others.cursor, known]
    rfl
  rw [Index.shiftFor, if_pos present, represents.getD_cursor]

theorem merge (represents : Represents index corpus) (others : Represents other added) :
    Represents (index.merge other) (corpus.merge added) := by
  refine ⟨fun document => ?_, fun word document => ?_, fun word postings found => ?_⟩
  · rw [cursor?_merge, represents.getD_cursor, represents.cursor, others.cursor]
    unfold Corpus.merge
    cases added document <;> simp
  · rw [positions?_merge, others.positions, represents.getD_positions,
      Corpus.wordsOf_merge]
    by_cases member : word ∈ added.wordsOf document
    · have known : ∃ words, added document = some words := by
        cases found : added document with
        | none => simp [Corpus.wordsOf, found] at member
        | some words => exact ⟨words, rfl⟩
      obtain ⟨words, known⟩ := known
      rw [represents.shiftFor others known]
      have moved : (List.idxsOf word (added.wordsOf document) 1).map
            (· + (corpus.wordsOf document).length)
          = List.idxsOf word (added.wordsOf document)
              (1 + (corpus.wordsOf document).length) := by
        rw [List.idxsOf_start, List.map_map, List.idxsOf_start (s := 1 + _)]
        congr 1
        funext place
        exact Nat.add_assoc place 1 _
      simp [member, moved]
    · have same : ∀ words : List Text, word ∈ words ++ added.wordsOf document ↔
          word ∈ words := by
        simp [member]
      simp [member, same, idxsOf_eq_nil member _, represents.positions]
  · rw [postings?_merge] at found
    cases both : other.postings? word with
    | none =>
        rw [both] at found
        exact represents.inhabited word postings found
    | some merged =>
        rw [both] at found
        cases found
        obtain ⟨document, present⟩ := others.inhabited word merged both
        refine ⟨document, ?_⟩
        rw [Postings.getElem?_append]
        obtain ⟨positions, found⟩ := Option.isSome_iff_exists.mp present
        rw [found]
        rfl

end Represents

end Index

end Concordance
