import Concordance.Proofs.Index.Change
import Concordance.Proofs.Query.Merging
import Concordance.Proofs.Query.Rereading
import Mathlib.Algebra.Group.Nat.Even

/-!
Contract: answers that last while an index goes on being changed.

A literal that holds in a document goes on holding, since words stay where they stand and
others only come behind them. In a tree an exclamation mark turns the direction round: under
an even number of them truth is gained and never lost, and under an odd number it is the other
way. A document for which nothing is brought is judged as before, in every tree.

Owns:
- literals that hold from one index to another;
- the polarity of a tree, and truth along it;
- the documents that a changed index still finds, and those it judges as before.

Does not own: what a change does to positions (`Concordance.Proofs.Index.Change`).
-/

set_option autoImplicit false

namespace Concordance.Query

open Concordance.Index (Change)

/-! ## Literals -/

/-- A literal holds where all words of a document are found as far away as each other. -/
theorem Literal.Holds.of_standsAt {index later : Index} {document : Text} (distance : Nat)
    (found : ∀ word position, index.StandsAt word document position →
      later.StandsAt word document (position + distance)) {literal : Literal}
    (holds : literal.Holds index document) : literal.Holds later document := by
  obtain ⟨nonempty, condition⟩ := holds
  refine ⟨nonempty, ?_⟩
  split at condition
  · rename_i phrase
    obtain ⟨start, stands⟩ := condition
    rw [if_pos phrase]
    refine ⟨start + distance, fun offset word here => ?_⟩
    rw [Nat.add_right_comm]
    exact found word _ (stands offset word here)
  · rename_i run
    rw [if_neg run]
    intro word member
    obtain ⟨position, stands⟩ := condition word member
    exact ⟨position + distance, found word position stands⟩

theorem Literal.Holds.grows {index later : Index} (grows : index.Grows later) {document : Text}
    {literal : Literal} (holds : literal.Holds index document) : literal.Holds later document :=
  holds.of_standsAt 0 fun _ _ stands => grows.standsAt stands

theorem Literal.Holds.merge_right (index : Index) {other : Index} {document : Text}
    (known : document ∈ other.allDocuments) {literal : Literal}
    (holds : literal.Holds other document) : literal.Holds (index.merge other) document :=
  holds.of_standsAt _ fun _ _ stands => stands.merge_right index known

/-! ## Polarity -/

/-- Every literal lies under an even number of negated nodes, `flags` of which stand above the
tree. -/
def Tree.IsPositiveUnder (flags : Nat) (tree : Tree) : Prop :=
  ∀ above mark content, tree.HasNode above (.literal mark content) →
    Even (flags + negationsOf above (.literal mark content))

/-- Every literal lies under an even number of negated nodes, itself included. -/
def Tree.IsPositive (tree : Tree) : Prop :=
  ∀ above mark content, tree.HasNode above (.literal mark content) →
    Even (negationsOf above (.literal mark content))

namespace Tree

theorem isPositiveUnder_literal (flags : Nat) (mark : Mark) (content : Literal) :
    (literal mark content).IsPositiveUnder flags ↔ Even (flags + mark.negated.toNat) := by
  constructor
  · intro positive
    have even := positive [] mark content (.top _)
    rw [negationsOf_nil] at even
    exact even
  · rintro even above mark content has
    cases has
    rw [negationsOf_nil]
    exact even

theorem isPositiveUnder_binary (flags : Nat) (mark : Mark) (connective : Connective)
    (left right : Tree) :
    (binary mark connective left right).IsPositiveUnder flags ↔
      left.IsPositiveUnder (flags + mark.negated.toNat) ∧
        right.IsPositiveUnder (flags + mark.negated.toNat) := by
  have below : ∀ above node, flags + mark.negated.toNat + negationsOf above node
      = flags + negationsOf (binary mark connective left right :: above) node := by
    intro above node
    rw [negationsOf_cons, Tree.mark, Nat.add_assoc]
  constructor
  · intro positive
    refine ⟨fun above mark content has => ?_, fun above mark content has => ?_⟩
    · rw [below]
      exact positive _ mark content (.left has)
    · rw [below]
      exact positive _ mark content (.right has)
  · rintro ⟨leftPositive, rightPositive⟩ above mark content has
    cases has with
    | left has =>
        rw [← below]
        exact leftPositive _ mark content has
    | right has =>
        rw [← below]
        exact rightPositive _ mark content has

instance decidableIsPositiveUnder :
    (flags : Nat) → (tree : Tree) → Decidable (tree.IsPositiveUnder flags)
  | flags, literal mark content =>
      decidable_of_iff _ (isPositiveUnder_literal flags mark content).symm
  | flags, binary mark connective left right =>
      have := decidableIsPositiveUnder (flags + mark.negated.toNat) left
      have := decidableIsPositiveUnder (flags + mark.negated.toNat) right
      decidable_of_iff _ (isPositiveUnder_binary flags mark connective left right).symm

theorem isPositive_iff (tree : Tree) : tree.IsPositive ↔ tree.IsPositiveUnder 0 := by
  simp only [IsPositive, IsPositiveUnder, Nat.zero_add]

instance (tree : Tree) : Decidable tree.IsPositive :=
  decidable_of_iff _ tree.isPositive_iff.symm

end Tree

/-! ## Truth along the polarity -/

/-- Under an even number of negations the first statement leads to the second one, and under an
odd number the second one to the first. -/
structure Leads (flags : Nat) (first second : Prop) : Prop where
  even : Even flags → first → second
  odd : ¬Even flags → second → first

namespace Leads

variable {flags : Nat} {first second : Prop}

theorem applied {mark : Mark} (leads : Leads (flags + mark.negated.toNat) first second) :
    Leads flags (mark.Applied first) (mark.Applied second) := by
  unfold Mark.Applied
  cases negated : mark.negated with
  | false =>
      rw [negated] at leads
      exact leads
  | true =>
      rw [negated] at leads
      refine ⟨fun even => ?_, fun odd => ?_⟩
      · exact mt (leads.odd (by simpa [Nat.even_add_one] using even))
      · exact mt (leads.even (Nat.even_add_one.mpr odd))

theorem joined (connective : Connective) {third fourth : Prop}
    (leads : Leads flags first second) (others : Leads flags third fourth) :
    Leads flags (connective.Joined first third) (connective.Joined second fourth) := by
  cases connective with
  | and => exact ⟨fun even => And.imp (leads.even even) (others.even even),
      fun odd => And.imp (leads.odd odd) (others.odd odd)⟩
  | or => exact ⟨fun even => Or.imp (leads.even even) (others.even even),
      fun odd => Or.imp (leads.odd odd) (others.odd odd)⟩

end Leads

/-- Where more literals hold, a positive tree stays true. The induction is on the tree, which
may stand under any number of negations. -/
theorem Tree.leads_satisfied {holds other : Literal → Prop}
    (implies : ∀ literal, holds literal → other literal) {flags : Nat} {tree : Tree}
    (positive : tree.IsPositiveUnder flags) :
    Leads flags (tree.Satisfied holds) (tree.Satisfied other) := by
  induction tree generalizing flags with
  | literal mark content =>
      rw [isPositiveUnder_literal] at positive
      exact Leads.applied ⟨fun _ => implies content, fun odd => absurd positive odd⟩
  | binary mark connective left right leftHypothesis rightHypothesis =>
      rw [isPositiveUnder_binary] at positive
      exact (Leads.joined connective (leftHypothesis positive.1)
        (rightHypothesis positive.2)).applied

/-! ## Changed indexes -/

section Changes

variable {index : Index} {changes : List Change}

/-- What a valid index finds by a positive tree it goes on finding, whatever texts are added
and whatever valid indexes are folded in. -/
theorem mem_evaluate_after (valid : index.isValid = true)
    (changesValid : ∀ change ∈ changes, change.IsValid) {tree : Tree}
    (positive : tree.IsPositive) :
    ∀ document ∈ evaluate index tree, document ∈ evaluate (index.after changes) tree := by
  intro document found
  have sound := (Index.isValid_iff index).mp valid
  have grows := Index.Grows.after index changes
  rw [mem_evaluate_of_sound sound] at found
  rw [mem_evaluate_of_sound (sound.after changesValid)]
  rw [tree.isPositive_iff] at positive
  have lasts : ∀ literal, Literal.Holds index document literal →
      Literal.Holds (index.after changes) document literal :=
    fun _ holds => holds.grows grows
  have leads := Tree.leads_satisfied lasts positive
  exact ⟨grows.documents document found.1, leads.even Even.zero found.2⟩

/-- The phrase `quick brown`, or one of the words `lunch` and `bear`, each behind two
exclamation marks. -/
def feastTree : Tree :=
  .binary ⟨true, ⟨0, 35⟩⟩ .and (.literal ⟨true, ⟨2, 16⟩⟩ ⟨["quick", "brown"], true⟩)
    (.binary ⟨true, ⟨19, 34⟩⟩ .or (.literal ⟨false, ⟨21, 26⟩⟩ ⟨["lunch"], false⟩)
      (.literal ⟨false, ⟨29, 33⟩⟩ ⟨["bear"], false⟩))

/-- Both documents that are found get more words, and there are new documents. -/
def feast : List Change :=
  [.addText "lunch" "brown bread",
    .merge (Index.ofTexts [("fox", "quick!"), ("bear", "A bear")]),
    .addText "tea" "No quick brown tea"]

/-- The two documents of the beginning are found with two others in the end. -/
theorem mem_evaluate_after_feast :
    lunchIndex.isValid = true ∧ (∀ change ∈ feast, change.IsValid) ∧ feastTree.IsPositive ∧
      (evaluate lunchIndex feastTree).toList = ["fox", "lunch"] ∧
      "fox".toList ∈ evaluate (lunchIndex.after feast) feastTree ∧
      (evaluate (lunchIndex.after feast) feastTree).toList = ["bear", "fox", "lunch", "tea"] := by
  have valid : lunchIndex.isValid = true := by decide +kernel
  have changesValid : ∀ change ∈ feast, change.IsValid := by decide +kernel
  have positive : feastTree.IsPositive := by decide +kernel
  have before : (evaluate lunchIndex feastTree).toList = ["fox", "lunch"] := by decide +kernel
  have found : "fox".toList ∈ evaluate lunchIndex feastTree := by
    rw [← Std.ExtTreeSet.mem_toList, before]
    exact List.mem_cons_self
  exact ⟨valid, changesValid, positive, before,
    mem_evaluate_after valid changesValid positive "fox" found, by decide +kernel⟩

/-- Changes of a valid index that bring nothing for a document leave all that is known of it
alone, and it is found by the same trees as before. -/
theorem after_of_untouched (valid : index.isValid = true)
    (changesValid : ∀ change ∈ changes, change.IsValid) {document : Text}
    (untouched : ∀ change ∈ changes, ¬change.Touches document) :
    (index.after changes).cursor? document = index.cursor? document ∧
    (document ∈ (index.after changes).allDocuments ↔ document ∈ index.allDocuments) ∧
    (∀ word, (index.after changes).positions? word document
      = index.positions? word document) ∧
    ∀ tree, document ∈ evaluate (index.after changes) tree ↔ document ∈ evaluate index tree := by
  have sound := (Index.isValid_iff index).mp valid
  have keeps := Index.Keeps.after index changesValid untouched
  refine ⟨keeps.cursor, keeps.mem_allDocuments_iff, keeps.positions, fun tree => ?_⟩
  rw [mem_evaluate_of_sound (sound.after changesValid), mem_evaluate_of_sound sound,
    keeps.mem_allDocuments_iff, tree.satisfied_of_agreesOn keeps.positions]

/-- The negated tree gets true in other documents, and `lunch` goes on being found by it. -/
theorem after_of_untouched_lunch :
    let changes : List Change := [.addText "none" "Quick!", .merge supperIndex]
    lunchIndex.isValid = true ∧ (∀ change ∈ changes, change.IsValid) ∧
      (∀ change ∈ changes, ¬change.Touches "lunch") ∧
      (evaluate lunchIndex lunchTree).toList = ["lunch"] ∧
      "lunch".toList ∈ evaluate (lunchIndex.after changes) lunchTree ∧
      (evaluate (lunchIndex.after changes) lunchTree).toList = ["bear", "lunch", "none"] := by
  intro changes
  have valid : lunchIndex.isValid = true := by decide +kernel
  have changesValid : ∀ change ∈ changes, change.IsValid := by decide +kernel
  have untouched : ∀ change ∈ changes, ¬change.Touches "lunch" := by decide +kernel
  have before : (evaluate lunchIndex lunchTree).toList = ["lunch"] := by decide +kernel
  have found : "lunch".toList ∈ evaluate lunchIndex lunchTree := by
    rw [← Std.ExtTreeSet.mem_toList, before]
    exact List.mem_singleton_self _
  obtain ⟨_, _, _, same⟩ := after_of_untouched valid changesValid untouched
  exact ⟨valid, changesValid, untouched, before, (same lunchTree).mpr found, by decide +kernel⟩

end Changes

end Concordance.Query
