import Concordance.Proofs.Index.Sound

/-!
Contract: every way of changing an index keeps it sound.

Nothing is assumed about where the indexes come from: cursors may lie past the last
position, positions may leave gaps, and words may have no documents. What carries the
proofs is that new positions lie past the old cursor, up to the new one.

Owns:
- lists of positions that fit below a cursor, and how they are put one behind the other;
- that adding documents, words and texts and merging keep indexes sound.

Does not own: indexes that have been loaded (`Concordance.Proofs.Storage.Lifetime`).
-/

set_option autoImplicit false

namespace Concordance.Index

/-! ## Lists of positions -/

/-- A list of positions ascends strictly from one to a cursor. -/
structure Fits (cursor : Nat) (positions : List Nat) : Prop where
  ascending : positions.Pairwise (· < ·)
  within : ∀ position ∈ positions, 1 ≤ position ∧ position ≤ cursor

namespace Fits

variable {cursor other : Nat} {positions more : List Nat}

theorem nil (cursor : Nat) : Fits cursor [] :=
  ⟨.nil, fun _ member => by cases member⟩

theorem mono (fits : Fits cursor positions) (le : cursor ≤ other) : Fits other positions := by
  refine ⟨fits.ascending, fun position member => ?_⟩
  obtain ⟨positive, bounded⟩ := fits.within position member
  exact ⟨positive, Nat.le_trans bounded le⟩

/-- Positions that are moved past a cursor go behind any list below it. -/
theorem append (fits : Fits cursor positions) (others : Fits other more) :
    Fits (cursor + other) (positions ++ more.map (· + cursor)) := by
  constructor
  · rw [List.pairwise_append, List.pairwise_map]
    refine ⟨fits.ascending, others.ascending.imp fun {first second} below => ?_,
      fun position member moved isMoved => ?_⟩
    · exact Nat.add_lt_add_right below cursor
    · obtain ⟨origin, inMore, rfl⟩ := List.mem_map.mp isMoved
      have bounded := (fits.within position member).2
      have positive := (others.within origin inMore).1
      omega
  · intro position member
    rcases List.mem_append.mp member with old | new
    · obtain ⟨positive, bounded⟩ := fits.within position old
      omega
    · obtain ⟨origin, inMore, rfl⟩ := List.mem_map.mp new
      obtain ⟨positive, bounded⟩ := others.within origin inMore
      omega

/-- The position behind the cursor goes to the end of any list below it. -/
theorem concat (fits : Fits cursor positions) :
    Fits (cursor + 1) (positions ++ [cursor + 1]) := by
  have one : Fits 1 [1] := ⟨List.pairwise_singleton _ _, by simp⟩
  have appended := fits.append one
  rw [List.map_singleton, Nat.add_comm 1 cursor] at appended
  exact appended

end Fits

/-! ## Sound indexes -/

/-- An index is sound if each list of positions that it has fits below the cursor of a
document that it knows. -/
theorem sound_iff (index : Index) :
    index.Sound ↔ ∀ word document positions,
      index.positions? word document = some positions →
        (index.cursor? document).isSome ∧ positions ≠ [] ∧
          Fits ((index.cursor? document).getD 0) positions := by
  rw [← isValid_iff, isValid_iff_forall]
  refine forall₄_congr fun word document positions found => ?_
  rw [positionsDefect?_eq_none_iff]
  cases index.cursor? document with
  | none => simp
  | some cursor =>
      constructor
      · rintro ⟨_, ⟨⟩, nonempty, ascending, within⟩
        exact ⟨rfl, nonempty, ascending, within⟩
      · rintro ⟨_, nonempty, fits⟩
        exact ⟨cursor, rfl, nonempty, fits.ascending, fits.within⟩

namespace Sound

variable {index other : Index}

/-- What a sound index lists for a word in a document fits, whether that is anything or
not. -/
theorem fits (sound : index.Sound) (word document : Text) :
    Fits ((index.cursor? document).getD 0) ((index.positions? word document).getD []) := by
  cases found : index.positions? word document with
  | none => exact Fits.nil _
  | some positions => exact ((sound_iff index).mp sound word document positions found).2.2

theorem empty : Index.empty.Sound := by
  rw [sound_iff]
  intro word document positions found
  rw [positions?_empty] at found
  cases found

theorem addDocument (sound : index.Sound) (document : Text) :
    (index.addDocument document).Sound := by
  rw [sound_iff] at sound ⊢
  intro word inspected positions found
  rw [positions?_addDocument] at found
  obtain ⟨known, nonempty, fits⟩ := sound word inspected positions found
  rw [cursor?_addDocument]
  by_cases same : document = inspected
  · rw [if_pos same, same]
    exact ⟨rfl, nonempty, fits⟩
  · rw [if_neg same]
    exact ⟨known, nonempty, fits⟩

/-- One more word stands behind the old cursor, at the new one. -/
theorem addWord (sound : index.Sound) (document word : Text) :
    (index.addWord document word).Sound := by
  cases known : index.cursor? document with
  | none =>
      have unchanged : index.addWord document word = index := by
        rw [Index.addWord, known]
      rw [unchanged]
      exact sound
  | some cursor =>
      have below := sound.fits word document
      rw [known, Option.getD_some] at below
      rw [sound_iff] at sound ⊢
      intro listed inspected positions found
      rw [positions?_addWord known] at found
      rw [cursor?_addWord known]
      by_cases here : word = listed ∧ document = inspected
      · rw [if_pos here] at found
        cases found
        rw [if_pos here.2]
        exact ⟨rfl, by simp, below.concat⟩
      · rw [if_neg here] at found
        -- Other lists stay as they are, below a cursor that may have moved on.
        obtain ⟨present, nonempty, fits⟩ := sound listed inspected positions found
        by_cases same : document = inspected
        · rw [if_pos same]
          rw [← same, known, Option.getD_some] at fits
          exact ⟨rfl, nonempty, fits.mono (Nat.le_succ cursor)⟩
        · rw [if_neg same]
          exact ⟨present, nonempty, fits⟩

theorem addText (sound : index.Sound) (document text : Text) :
    (index.addText document text).1.Sound := by
  rw [addText_eq]
  exact List.foldlRecOn text.words _ (sound.addDocument document)
    fun grown sound word _ => sound.addWord document word.text

/-- In a merge the positions of the second side are moved by the cursor of the first, and
the new cursor is the sum of both. -/
theorem merge (sound : index.Sound) (others : other.Sound) : (index.merge other).Sound := by
  rw [sound_iff]
  intro word document positions found
  have own := sound.fits word document
  rw [positions?_merge] at found
  rw [cursor?_merge]
  cases added : other.positions? word document with
  | none =>
      -- Only the first side lists the word, in a document that may have got longer.
      rw [added, Option.elim_none] at found
      obtain ⟨known, nonempty, fits⟩ := (sound_iff index).mp sound word document positions found
      cases other.cursor? document with
      | none => exact ⟨known, nonempty, fits⟩
      | some cursor => exact ⟨rfl, nonempty, fits.mono (Nat.le_add_right _ cursor)⟩
  | some moved =>
      -- The second side knows the document, so its positions are moved.
      obtain ⟨known, nonempty, fits⟩ := (sound_iff other).mp others word document moved added
      have shift := shiftFor_of_isSome index known
      obtain ⟨cursor, present⟩ := Option.isSome_iff_exists.mp known
      rw [present, Option.getD_some] at fits
      rw [added, Option.elim_some, Option.some.injEq, shift] at found
      rw [present, Option.elim_some, ← found]
      exact ⟨rfl, by simp [nonempty], own.append fits⟩

end Sound

end Concordance.Index
