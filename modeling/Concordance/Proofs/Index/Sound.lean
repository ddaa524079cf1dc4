import Concordance.Index.Validity
import Concordance.Proofs.Index.Corpus

/-!
Contract: what it means for an index to be valid.

The check walks through the entries and stops at the first defect. Here it is equal
to a property of what is found in the index, which no longer mentions any order.

Owns:
- the property `Sound`, and that the check decides it;
- that an index of a corpus has it;
- the places at which a word stands in a document.

Does not own: other indexes, such as those that have been loaded.
-/

set_option autoImplicit false

namespace Concordance.Index

open Std (ExtTreeMap)

/-- The list of positions of a word in a document belongs to a document of the index,
is not empty and ascends strictly from one to the document's cursor. -/
structure Sound (index : Index) : Prop where
  known : ∀ {word document positions}, index.positions? word document = some positions →
    (index.cursor? document).isSome
  nonempty : ∀ {word document positions}, index.positions? word document = some positions →
    positions ≠ []
  ascending : ∀ {word document positions}, index.positions? word document = some positions →
    positions.Pairwise (· < ·)
  positive : ∀ {word document positions}, index.positions? word document = some positions →
    ∀ position ∈ positions, 1 ≤ position
  bounded : ∀ {word document positions cursor},
    index.positions? word document = some positions →
    index.cursor? document = some cursor → ∀ position ∈ positions, position ≤ cursor

/-! ## One list of positions -/

theorem wrongPosition?_eq_none_iff (cursor previous : Nat) (positions : List Nat) :
    wrongPosition? cursor previous positions = none ↔
      (previous :: positions).Pairwise (· < ·) ∧
        ∀ position ∈ positions, position ≤ cursor := by
  rw [← List.isChain_iff_pairwise]
  induction positions generalizing previous with
  | nil => simp [wrongPosition?]
  | cons position rest inductionHypothesis =>
      rw [wrongPosition?, List.isChain_cons_cons, List.forall_mem_cons]
      by_cases wrong : position ≤ previous ∨ cursor < position
      · have refused :
            (decide (position ≤ previous) || decide (cursor < position)) = true := by
          simpa using wrong
        rw [if_pos refused]
        constructor
        · intro impossible
          cases impossible
        · rintro ⟨⟨above, _⟩, below, _⟩
          omega
      · have accepted :
            ¬(decide (position ≤ previous) || decide (cursor < position)) = true := by
          simpa using wrong
        rw [if_neg accepted, inductionHypothesis]
        constructor
        · rintro ⟨chain, below⟩
          exact ⟨⟨by omega, chain⟩, by omega, below⟩
        · rintro ⟨⟨_, chain⟩, _, below⟩
          exact ⟨chain, below⟩

theorem positionsDefect?_eq_none_iff (index : Index) (word document : Text)
    (positions : List Nat) :
    index.positionsDefect? word document positions = none ↔
      ∃ cursor, index.cursor? document = some cursor ∧ positions ≠ [] ∧
        positions.Pairwise (· < ·) ∧
          ∀ position ∈ positions, 1 ≤ position ∧ position ≤ cursor := by
  unfold positionsDefect?
  cases index.cursor? document with
  | none => simp
  | some cursor =>
      cases positions with
      | nil => simp
      | cons first rest =>
          simp only [List.isEmpty_cons, Bool.false_eq_true, if_false, Option.map_eq_none_iff,
            Option.some.injEq]
          rw [wrongPosition?_eq_none_iff, List.pairwise_cons]
          constructor
          · rintro ⟨⟨positive, ascending⟩, bounded⟩
            exact ⟨cursor, rfl, List.cons_ne_nil _ _, ascending,
              fun position member => ⟨positive position member, bounded position member⟩⟩
          · rintro ⟨_, rfl, _, ascending, within⟩
            exact ⟨⟨fun position member => (within position member).1, ascending⟩,
              fun position member => (within position member).2⟩

/-! ## The whole index -/

/-- The check visits exactly the lists of positions that can be found. -/
theorem isValid_iff_forall (index : Index) :
    index.isValid = true ↔ ∀ word document positions,
      index.positions? word document = some positions →
        index.positionsDefect? word document positions = none := by
  rw [isValid, Option.isNone_iff_eq_none, defect?, List.findSome?_eq_none_iff]
  simp only [List.findSome?_eq_none_iff]
  constructor
  · intro faultless word document positions found
    rw [positions?] at found
    obtain ⟨postings, entry, posting⟩ := Option.bind_eq_some_iff.mp found
    exact faultless (word, postings) (ExtTreeMap.mem_toList_iff_getElem?_eq_some.mpr entry)
      (document, positions) (ExtTreeMap.mem_toList_iff_getElem?_eq_some.mpr posting)
  · rintro faultless ⟨word, postings⟩ entry ⟨document, positions⟩ posting
    apply faultless
    rw [positions?, postings?, ExtTreeMap.mem_toList_iff_getElem?_eq_some.mp entry]
    exact ExtTreeMap.mem_toList_iff_getElem?_eq_some.mp posting

theorem isValid_iff (index : Index) : index.isValid = true ↔ index.Sound := by
  rw [isValid_iff_forall]
  simp only [positionsDefect?_eq_none_iff]
  constructor
  · intro faultless
    refine ⟨fun found => ?_, fun found => ?_, fun found => ?_, fun found => ?_,
      fun found known => ?_⟩
    · obtain ⟨cursor, known, _⟩ := faultless _ _ _ found
      exact Option.isSome_iff_exists.mpr ⟨cursor, known⟩
    · exact (faultless _ _ _ found).choose_spec.2.1
    · exact (faultless _ _ _ found).choose_spec.2.2.1
    · intro position member
      exact ((faultless _ _ _ found).choose_spec.2.2.2 position member).1
    · obtain ⟨cursor, actual, _, _, within⟩ := faultless _ _ _ found
      cases known.symm.trans actual
      exact fun position member => (within position member).2
  · intro sound word document positions found
    obtain ⟨cursor, known⟩ := Option.isSome_iff_exists.mp (sound.known found)
    exact ⟨cursor, known, sound.nonempty found, sound.ascending found,
      fun position member =>
        ⟨sound.positive found position member, sound.bounded found known position member⟩⟩

/-- Whether a word stands at a position of a document. -/
def StandsAt (index : Index) (word document : Text) (position : Nat) : Prop :=
  position ∈ (index.positions? word document).getD []

/-- In a sound index a word is listed for a document just where it stands somewhere. -/
theorem Sound.isSome_positions?_iff {index : Index} (sound : index.Sound)
    (word document : Text) :
    (index.positions? word document).isSome ↔
      ∃ position, index.StandsAt word document position := by
  unfold StandsAt
  cases found : index.positions? word document with
  | none => simp
  | some positions => simpa using List.exists_mem_of_ne_nil _ (sound.nonempty found)

/-! ## Indexes of a corpus -/

namespace Represents

variable {index : Index} {corpus : Corpus}

theorem eq_idxsOf (represents : Represents index corpus) {word document : Text}
    {positions : List Nat} (found : index.positions? word document = some positions) :
    word ∈ corpus.wordsOf document ∧
      positions = List.idxsOf word (corpus.wordsOf document) 1 := by
  rw [represents.positions] at found
  split at found
  · cases found
    exact ⟨‹_›, rfl⟩
  · cases found

/-- What an index holds of a corpus is sound. -/
theorem sound (represents : Represents index corpus) : index.Sound where
  known := fun found => by
    rw [represents.cursor, Option.isSome_map]
    exact Corpus.isSome_of_mem_wordsOf (represents.eq_idxsOf found).1
  nonempty := fun found => by
    obtain ⟨member, rfl⟩ := represents.eq_idxsOf found
    rw [ne_eq, List.idxsOf_eq_nil_iff]
    intro absent
    exact absurd (absent _ member) (by simp)
  ascending := fun found => by
    obtain ⟨_, rfl⟩ := represents.eq_idxsOf found
    exact List.pairwise_idxsOf
  positive := fun found => by
    obtain ⟨_, rfl⟩ := represents.eq_idxsOf found
    exact List.ge_of_mem_idxsOf
  bounded := fun {word document positions cursor} found known position member => by
    obtain ⟨_, rfl⟩ := represents.eq_idxsOf found
    have length := represents.getD_cursor document
    rw [known, Option.getD_some] at length
    have below := List.lt_add_of_mem_idxsOf position member
    omega

/-- Positions are places in the sequence of words, counted from one. -/
theorem standsAt_iff (represents : Represents index corpus) (word document : Text)
    (position : Nat) :
    index.StandsAt word document position ↔
      1 ≤ position ∧ (corpus.wordsOf document)[position - 1]? = some word := by
  rw [StandsAt, represents.getD_positions, List.mem_idxsOf_iff_getElem_sub_pos,
    List.getElem?_eq_some_iff]
  simp only [beq_iff_eq]

end Represents

end Concordance.Index
