import Concordance.Proofs.Index.Growth
import Concordance.Proofs.Index.Plan

/-!
Contract: merging as an operation on sound indexes, whatever they stand for.

An index that has been loaded need not be that of any texts: its cursors may lie past the
last position, and words may have no documents. Merging such indexes still gives the same
for every grouping: in each document the cursors are added up, and each list of positions
goes behind the one before it, moved past the cursor that it meets there.

Owns:
- lists of positions that are moved, and what a merge of sound indexes holds;
- the positions and the documents of a merge of indexes without common documents;
- that merging is associative, has the empty index as its unit and commutes where no
  document is known to both sides.

Does not own: merges of indexes that represent texts (`Concordance.Proofs.Index.Plan`).
-/

set_option autoImplicit false

namespace Concordance.Index

/-! ## Moved positions -/

/-- The positions of a word, if it has any, past as many words as `distance` says. -/
def moved (distance : Nat) (positions : Option (List Nat)) : Option (List Nat) :=
  positions.map (List.map (· + distance))

theorem moved_zero (positions : Option (List Nat)) : moved 0 positions = positions := by
  cases positions <;> simp [moved]

theorem moved_moved (first second : Nat) (positions : Option (List Nat)) :
    moved second (moved first positions) = moved (first + second) positions := by
  have together : List.map (· + second) ∘ List.map (· + first)
      = List.map (· + (first + second)) := by
    funext positions
    rw [Function.comp_apply, List.map_map]
    exact List.map_congr_left fun position _ => Nat.add_assoc position first second
  rw [moved, moved, moved, Option.map_map, together]

/-- Two lists, one behind the other, are moved together. -/
theorem moved_merge (distance : Nat) (own added : Option (List Nat)) :
    moved distance (Option.merge (· ++ ·) own added)
      = Option.merge (· ++ ·) (moved distance own) (moved distance added) := by
  cases own <;> cases added <;> simp [moved]

/-! ## What a merge holds -/

variable {index other third : Index}

/-- A document of a merge has the words of both sides. -/
theorem cursor?_merge_eq (index other : Index) (document : Text) :
    (index.merge other).cursor? document
      = Option.merge (· + ·) (index.cursor? document) (other.cursor? document) := by
  rw [cursor?_merge]
  cases index.cursor? document <;> cases other.cursor? document <;> simp

theorem getD_cursor?_merge (index other : Index) (document : Text) :
    ((index.merge other).cursor? document).getD 0
      = (index.cursor? document).getD 0 + (other.cursor? document).getD 0 := by
  rw [cursor?_merge_eq]
  cases index.cursor? document <;> cases other.cursor? document <;> simp

/-- A merge has the words of both sides, those without documents included. -/
theorem isSome_postings?_merge (index other : Index) (word : Text) :
    ((index.merge other).postings? word).isSome
      ↔ (index.postings? word).isSome ∨ (other.postings? word).isSome := by
  rw [postings?_merge]
  cases other.postings? word <;> simp

/-- Whatever a sound second side lists belongs to a document that it knows, and so all its
positions are moved. -/
theorem Sound.positions?_merge (others : other.Sound) (index : Index) (word document : Text) :
    (index.merge other).positions? word document
      = Option.merge (· ++ ·) (index.positions? word document)
          (moved ((index.cursor? document).getD 0) (other.positions? word document)) := by
  rw [Index.positions?_merge]
  cases added : other.positions? word document with
  | none => cases index.positions? word document <;> rfl
  | some positions =>
      rw [shiftFor_of_isSome index (others.known added)]
      cases index.positions? word document <;> simp [moved]

/-! ## Merges without common documents -/

theorem mem_allDocuments_merge (index other : Index) (document : Text) :
    document ∈ (index.merge other).allDocuments ↔
      document ∈ index.allDocuments ∨ document ∈ other.allDocuments := by
  simp only [mem_allDocuments, cursor?_merge_eq, Option.isSome_merge, Bool.or_eq_true]

theorem cursor?_eq_none {document : Text} (unknown : document ∉ index.allDocuments) :
    index.cursor? document = none := by
  simpa [mem_allDocuments] using unknown

/-- A sound index lists nothing for documents that it does not know. -/
theorem Sound.positions?_eq_none (sound : index.Sound) {document : Text}
    (unknown : document ∉ index.allDocuments) (word : Text) :
    index.positions? word document = none := by
  rw [mem_allDocuments] at unknown
  cases found : index.positions? word document with
  | none => rfl
  | some positions => exact absurd (sound.known found) unknown

/-- Two indexes list the same positions of every word in a document. -/
def AgreesOn (index other : Index) (document : Text) : Prop :=
  ∀ word, index.positions? word document = other.positions? word document

/-- A document that only the first side knows keeps its positions. -/
theorem agreesOn_merge_left (others : other.Sound) {document : Text}
    (unknown : document ∉ other.allDocuments) :
    (index.merge other).AgreesOn index document := by
  intro word
  rw [others.positions?_merge, others.positions?_eq_none unknown word]
  exact Option.merge_none_right

/-- A document that only the second side knows comes over without being moved. -/
theorem agreesOn_merge_right (sound : index.Sound) {document : Text}
    (unknown : document ∉ index.allDocuments) :
    (index.merge other).AgreesOn other document := by
  have unmoved : index.shiftFor other document = 0 := by
    rw [shiftFor, cursor?_eq_none unknown, Option.getD_none, ite_self]
  intro word
  rw [positions?_merge, sound.positions?_eq_none unknown word, unmoved]
  cases other.positions? word document <;> simp

/-! ## Laws -/

theorem merge_empty (index : Index) : index.merge empty = index := by
  refine ext_found (fun document => ?_) (fun word => ?_) (fun word document => ?_)
  · rw [cursor?_merge, cursor?_empty, Option.elim_none]
  · rw [postings?_merge, postings?_empty, Option.elim_none]
  · rw [positions?_merge, positions?_empty, Option.elim_none]

theorem Sound.empty_merge (sound : index.Sound) : Index.empty.merge index = index := by
  refine ext_found (fun document => ?_) (fun word => ?_) (fun word document => ?_)
  · rw [cursor?_merge_eq, cursor?_empty, Option.merge_none_left]
  · rw [isSome_postings?_merge, postings?_empty]
    exact or_iff_right Bool.false_ne_true
  · rw [sound.positions?_merge, positions?_empty, cursor?_empty, Option.getD_none,
      moved_zero, Option.merge_none_left]

/-- In both groupings the positions of the third side are moved past the words of the first
two. -/
theorem Sound.merge_assoc (others : other.Sound) (thirds : third.Sound) (index : Index) :
    (index.merge other).merge third = index.merge (other.merge third) := by
  refine ext_found (fun document => ?_) (fun word => ?_) (fun word document => ?_)
  · simp only [cursor?_merge_eq]
    exact Std.Associative.assoc _ _ _
  · simp only [isSome_postings?_merge, or_assoc]
  · rw [thirds.positions?_merge, others.positions?_merge, getD_cursor?_merge,
      (others.merge thirds).positions?_merge, thirds.positions?_merge, moved_merge,
      moved_moved, Nat.add_comm]
    exact Std.Associative.assoc _ _ _

/-- Nothing is moved if no document is known to both sides. -/
theorem Sound.merge_comm (sound : index.Sound) (others : other.Sound)
    (apart : ∀ document ∈ index.allDocuments, document ∉ other.allDocuments) :
    index.merge other = other.merge index := by
  refine ext_found (fun document => ?_) (fun word => ?_) (fun word document => ?_)
  · rw [cursor?_merge_eq, cursor?_merge_eq]
    exact Std.Commutative.comm _ _
  · simp only [isSome_postings?_merge, or_comm]
  · by_cases known : document ∈ index.allDocuments
    · have unknown := apart document known
      rw [agreesOn_merge_left others unknown, agreesOn_merge_right others unknown]
    · rw [agreesOn_merge_right sound known, agreesOn_merge_left sound known]

/-- Valid indexes form a monoid under merging, with the empty index as its unit. In a merge
every document has the words of both sides, and the positions of a word on the first side
are followed by those on the second one, past all words that the first has there. Without
documents in common the sides can change places. -/
theorem merge_lawful (valid : index.isValid = true) (otherValid : other.isValid = true)
    (thirdValid : third.isValid = true) :
    (index.merge other).merge third = index.merge (other.merge third) ∧
    index.merge empty = index ∧ empty.merge index = index ∧
    (∀ document, (index.merge other).cursor? document
      = Option.merge (· + ·) (index.cursor? document) (other.cursor? document)) ∧
    (∀ word document, (index.merge other).positions? word document
      = Option.merge (· ++ ·) (index.positions? word document)
          (moved ((index.cursor? document).getD 0) (other.positions? word document))) ∧
    ((∀ document ∈ index.allDocuments, document ∉ other.allDocuments) →
      index.merge other = other.merge index) := by
  have sound := (isValid_iff index).mp valid
  have others := (isValid_iff other).mp otherValid
  have thirds := (isValid_iff third).mp thirdValid
  exact ⟨others.merge_assoc thirds index, merge_empty index, sound.empty_merge,
    cursor?_merge_eq index other, others.positions?_merge index, sound.merge_comm others⟩

/-- A document with gaps between its positions and behind them, and a word that stands
nowhere. -/
def seaIndex : Index where
  terms := ((∅ : Std.ExtTreeMap Text Postings).insert "net" ∅).insert "fish"
    ((∅ : Postings).insert "sea" [3, 7])
  documents := (∅ : Std.ExtTreeMap Text Nat).insert "sea" 9

/-- A document in common with each of the other two. -/
def shoreIndex : Index := ofTexts [("sea", "A fish, a ship"), ("pier", "fish")]

def pierIndex : Index := ofTexts [("pier", "No fish: a hook")]

/-- Positions are moved past cursors, not past the last positions in front of them. -/
theorem merge_lawful_shore :
    seaIndex.isValid = true ∧ shoreIndex.isValid = true ∧ pierIndex.isValid = true ∧
    (seaIndex.merge shoreIndex).merge pierIndex = seaIndex.merge (shoreIndex.merge pierIndex) ∧
    seaIndex.merge empty = seaIndex ∧ empty.merge seaIndex = seaIndex ∧
    (seaIndex.merge shoreIndex).cursor? "sea" = some 13 ∧
    (seaIndex.merge shoreIndex).positions? "fish" "sea" = some [3, 7, 11] ∧
    (seaIndex.merge shoreIndex).positions? "ship" "sea" = some [13] ∧
    (∀ document ∈ seaIndex.allDocuments, document ∉ pierIndex.allDocuments) ∧
    seaIndex.merge pierIndex = pierIndex.merge seaIndex := by
  have sea : seaIndex.isValid = true := by decide +kernel
  have shore : shoreIndex.isValid = true := by decide +kernel
  have pier : pierIndex.isValid = true := by decide +kernel
  have apart : ∀ document ∈ seaIndex.allDocuments, document ∉ pierIndex.allDocuments := by
    intro document member
    rw [← Std.ExtTreeSet.mem_toList] at member
    revert document
    decide +kernel
  obtain ⟨associative, rightUnit, leftUnit, cursors, positions, _⟩ := merge_lawful sea shore pier
  obtain ⟨_, _, _, _, _, commutes⟩ := merge_lawful sea pier shore
  exact ⟨sea, shore, pier, associative, rightUnit, leftUnit,
    (cursors "sea").trans (by decide +kernel), (positions "fish" "sea").trans (by decide +kernel),
    (positions "ship" "sea").trans (by decide +kernel), apart, commutes apart⟩

end Concordance.Index
