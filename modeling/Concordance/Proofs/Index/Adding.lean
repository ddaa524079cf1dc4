import Concordance.Proofs.Index.Merging
import Concordance.Proofs.Text.Words

/-!
Contract: adding a text to an index is merging the index of the text into it.

Both put words at the end of documents, and it does not matter whether a text is added in
front of a merge, to its second side, or behind it. So what is known of merges is known of
additions, for every index, and texts that give the same words can take each other's place.

Owns:
- that a text can be added to the second side of a merge or to the whole;
- adding texts as a merge;
- texts that are added in two parts.

Does not own: the words of a text in two parts (`Concordance.Proofs.Text.Words`).
-/

set_option autoImplicit false

namespace Concordance.Index

open Concordance.Text (EndsLetters isLetter)

/-! ## Additions to the second side of a merge -/

section Merge

variable {other : Index} {document : Text}

theorem Sound.merge_addDocument (others : other.Sound) (index : Index) (document : Text) :
    index.merge (other.addDocument document) = (index.merge other).addDocument document := by
  refine ext_found (fun inspected => ?_) (fun word => ?_) (fun word inspected => ?_)
  · rw [cursor?_merge, cursor?_addDocument, cursor?_addDocument, getD_cursor?_merge,
      cursor?_merge]
    by_cases same : document = inspected
    · subst same
      rw [if_pos rfl, if_pos rfl, Option.elim_some]
    · rw [if_neg same, if_neg same]
  · rw [isSome_postings?_merge, postings?_addDocument, postings?_addDocument,
      isSome_postings?_merge]
  · rw [(others.addDocument document).positions?_merge, positions?_addDocument,
      positions?_addDocument, others.positions?_merge]

/-- The word comes behind all words that either side has in the document. -/
theorem Sound.merge_addWord (others : other.Sound) (known : (other.cursor? document).isSome)
    (index : Index) (word : Text) :
    index.merge (other.addWord document word) = (index.merge other).addWord document word := by
  obtain ⟨cursor, found⟩ := Option.isSome_iff_exists.mp known
  have merged : (index.merge other).cursor? document
      = some ((index.cursor? document).getD 0 + cursor) := by
    rw [cursor?_merge, found, Option.elim_some]
  refine ext_found (fun inspected => ?_) (fun listed => ?_) (fun listed inspected => ?_)
  · rw [cursor?_merge, cursor?_addWord found, cursor?_addWord merged, cursor?_merge]
    by_cases same : document = inspected
    · subst same
      rw [if_pos rfl, if_pos rfl, Option.elim_some, Nat.add_assoc]
    · rw [if_neg same, if_neg same]
  · rw [isSome_postings?_merge, postings?_addWord found, postings?_addWord merged]
    by_cases same : word = listed
    · simp [same]
    · rw [if_neg same, if_neg same, isSome_postings?_merge]
  · rw [(others.addWord document word).positions?_merge, positions?_addWord found,
      positions?_addWord merged, others.positions?_merge]
    by_cases here : word = listed ∧ document = inspected
    · obtain ⟨rfl, rfl⟩ := here
      have place : cursor + 1 + (index.cursor? document).getD 0
          = (index.cursor? document).getD 0 + cursor + 1 := by omega
      rw [if_pos ⟨rfl, rfl⟩, if_pos ⟨rfl, rfl⟩]
      cases index.positions? word document <;> cases other.positions? word document <;>
        simp [moved, place]
    · rw [if_neg here, if_neg here, others.positions?_merge]

theorem Sound.merge_addText (others : other.Sound) (index : Index) (document text : Text) :
    index.merge (other.addText document text).1
      = ((index.merge other).addText document text).1 := by
  have added : ∀ (words : List Text.Word) (grown : Index), grown.Sound →
      (grown.cursor? document).isSome →
      index.merge (words.foldl (fun grown word => grown.addWord document word.text) grown)
        = words.foldl (fun grown word => grown.addWord document word.text)
            (index.merge grown) := by
    intro words
    induction words with
    | nil => exact fun _ _ _ => rfl
    | cons word rest inductionHypothesis =>
        intro grown sound known
        obtain ⟨cursor, found⟩ := Option.isSome_iff_exists.mp known
        have still : ((grown.addWord document word.text).cursor? document).isSome := by
          rw [cursor?_addWord found, if_pos rfl]
          rfl
        rw [List.foldl_cons, inductionHypothesis _ (sound.addWord document word.text) still,
          sound.merge_addWord known, List.foldl_cons]
  have known : ((other.addDocument document).cursor? document).isSome := by
    rw [cursor?_addDocument, if_pos rfl]
    rfl
  rw [addText_eq, addText_eq, ← others.merge_addDocument]
  exact added text.words _ (others.addDocument document) known

end Merge

/-! ## Additions as merges -/

theorem sound_ofTexts (texts : List (Text × Text)) : (ofTexts texts).Sound :=
  (Represents.ofTexts texts).sound

theorem addText_eq_merge (index : Index) (document text : Text) :
    (index.addText document text).1 = index.merge (ofTexts [(document, text)]) := by
  have added := Sound.empty.merge_addText index document text
  rw [merge_empty] at added
  exact added.symm

/-- Adding texts one after another is merging the index of all of them. -/
theorem foldl_addText_eq_merge (index : Index) (texts : List (Text × Text)) :
    texts.foldl (fun index entry => (index.addText entry.1 entry.2).1) index
      = index.merge (ofTexts texts) := by
  induction texts generalizing index with
  | nil => exact (merge_empty index).symm
  | cons entry rest inductionHypothesis =>
      have whole : ofTexts (entry :: rest) = (ofTexts [entry]).merge (ofTexts rest) :=
        inductionHypothesis (ofTexts [entry])
      rw [List.foldl_cons, inductionHypothesis, addText_eq_merge, whole,
        (sound_ofTexts [entry]).merge_assoc (sound_ofTexts rest)]

/-! ## Texts in two parts -/

/-- The index with two texts added to a document, one after the other, and the number of
words of both. -/
def addParts (index : Index) (document front back : Text) : Index × Nat :=
  let first := index.addText document front
  let second := first.1.addText document back
  (second.1, first.2 + second.2)

/-- A text can take the place of two others if it has their words. -/
theorem addParts_eq {front back whole : Text}
    (same : whole.words.map Text.Word.text
      = front.words.map Text.Word.text ++ back.words.map Text.Word.text)
    (index : Index) (document : Text) :
    index.addParts document front back = index.addText document whole := by
  have corpora : Corpus.ofTexts [(document, front), (document, back)]
      = Corpus.ofTexts [(document, whole)] := by
    refine (Corpus.append_append _ _ _ _).trans ?_
    rw [← same]
    rfl
  have indexes : ofTexts [(document, front), (document, back)] = ofTexts [(document, whole)] := by
    apply (Represents.ofTexts _).unique
    rw [corpora]
    exact Represents.ofTexts _
  have lengths := congrArg List.length same
  rw [List.length_append, List.length_map, List.length_map, List.length_map] at lengths
  refine Prod.ext ?_ ?_
  · rw [addText_eq_merge, ← indexes]
    exact foldl_addText_eq_merge index [(document, front), (document, back)]
  · rw [addParts, snd_addText, snd_addText, snd_addText, lengths]

/-- A text can be added in two parts, with the same index and the same number of words in the
end, exactly if letters do not stand on both sides of the cut. So it can be cut at any
separators, and these can be left out. -/
theorem addText_append_iff (index : Index) (document : Text) :
    (∀ front back : Text,
      index.addParts document front back = index.addText document (front ++ back) ↔
        EndsLetters front.reverse ∨ EndsLetters back) ∧
    ∀ front separators back : Text, separators ≠ [] →
      (∀ character ∈ separators, isLetter character = false) →
        index.addParts document front back
          = index.addText document (front ++ separators ++ back) := by
  refine ⟨fun front back => ⟨fun same => ?_, fun apart => ?_⟩,
    fun front separators back nonempty noLetters => ?_⟩
  · by_contra inside
    rw [not_or] at inside
    have counts := congrArg Prod.snd same
    have more := Text.length_letterRuns_of_inside inside.1 inside.2
    simp only [addParts, snd_addText, Text.length_words] at counts
    omega
  · exact addParts_eq ((Text.words_append_iff front back).mpr apart) index document
  · exact addParts_eq (Text.words_append_separators nonempty noLetters front back) index
      document

/-- The first part ends in a sigma, which would not be a final one in front of a letter. A
separator keeps it final, even one that case rules look through. -/
theorem addText_append_odes :
    let front : Text := "A fish, 2 ΟΔΟΣ"
    let separators : Text := "’"
    let back : Text := "Σα"
    separators ≠ [] ∧ (∀ character ∈ separators, isLetter character = false) ∧
      seaIndex.addParts "sea" front back
        = seaIndex.addText "sea" (front ++ separators ++ back) ∧
      (seaIndex.addParts "sea" front back).2 = 4 ∧
      (seaIndex.addParts "sea" front back).1.positions? "οδος" "sea" = some [12] ∧
      ¬(EndsLetters front.reverse ∨ EndsLetters back) ∧
      seaIndex.addParts "sea" front back ≠ seaIndex.addText "sea" (front ++ back) := by
  intro front separators back
  have nonempty : separators ≠ [] := List.cons_ne_nil _ _
  have noLetters : ∀ character ∈ separators, isLetter character = false := by
    have all : (separators.all fun character => !isLetter character) = true := by
      decide +kernel
    simpa using all
  have inside : ¬(EndsLetters front.reverse ∨ EndsLetters back) := by decide +kernel
  obtain ⟨cut, separated⟩ := addText_append_iff seaIndex "sea"
  exact ⟨nonempty, noLetters, separated front separators back nonempty noLetters,
    by decide +kernel, by decide +kernel, inside,
    fun same => inside ((cut front back).mp same)⟩

end Concordance.Index
