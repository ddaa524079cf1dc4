import Concordance.Proofs.Index.Sound
import Concordance.Proofs.Text.ByteOrder
import Mathlib.Order.BooleanAlgebra.Set

/-!
Contract: the document sets of an index form a Boolean algebra.

The operations on document sets look at sizes to save work, and the documents without a
word are found without a complement. What they give does not depend on it: each operation
is the one on sets, and so the laws are those of sets of documents of the index.

Owns:
- when document sets are equal;
- the order of the listed members;
- the Boolean algebra of the sets of documents of an index;
- the documents with and without a word as complements of each other.

Does not own: the members of unions and intersections (`Concordance.Proofs.Index.Access`) and
the documents that a query finds (`Concordance.Proofs.Query.Meaning`).
-/

set_option autoImplicit false

namespace Concordance

open Std (ExtTreeSet)

/-! ## Equality and order -/

namespace DocumentSet

variable (left right : DocumentSet)

/-- A set of the same size has no more members than those it is known to have. -/
theorem equal_eq_true_iff : left.equal right = true ↔ left = right := by
  rw [equal, Bool.and_eq_true, decide_eq_true_eq, List.all_eq_true]
  constructor
  · rintro ⟨sizes, contained⟩
    have forward : ∀ document ∈ left, document ∈ right := fun document member =>
      ExtTreeSet.contains_iff_mem.mp (contained document (ExtTreeSet.mem_toList.mpr member))
    have counted : (right \ left).size + (right ∩ left).size = right.size :=
      ExtTreeSet.size_diff_add_size_inter_eq_size_left
    rw [ExtTreeSet.size_inter_eq_size_right forward] at counted
    have none : (right \ left).isEmpty = true := by
      rw [ExtTreeSet.isEmpty_iff, ExtTreeSet.eq_empty_iff_size_eq_zero]
      omega
    have backward := ExtTreeSet.isEmpty_diff_iff.mp none
    exact ExtTreeSet.ext_mem fun document => ⟨forward document, backward document⟩
  · rintro rfl
    exact ⟨rfl, fun document member =>
      ExtTreeSet.contains_iff_mem.mpr (ExtTreeSet.mem_toList.mp member)⟩

theorem equal_eq_true_iff_toList :
    left.equal right = true ↔ left.toList = right.toList := by
  rw [equal_eq_true_iff, ExtTreeSet.toList_inj]

/-- The members are listed in the order of their bytes, each once. -/
theorem toList_ascending (set : DocumentSet) :
    set.toList.Pairwise fun first second => Utf8.encode first < Utf8.encode second :=
  ExtTreeSet.ordered_toList.imp Utf8.encode_lt_of_compare

end DocumentSet

namespace Index

/-! ## The Boolean algebra -/

/-- A set of documents of an index. -/
@[ext]
structure Selection (index : Index) where
  set : DocumentSet
  known : ∀ document ∈ set, document ∈ index.allDocuments

namespace Selection

variable {index : Index}

instance : Max index.Selection where
  max first second := ⟨first.set.union second.set, fun document member =>
    ((DocumentSet.mem_union ..).mp member).elim (first.known document) (second.known document)⟩

instance : Min index.Selection where
  min first second := ⟨first.set.intersection second.set, fun document member =>
    first.known document ((DocumentSet.mem_intersection ..).mp member).1⟩

instance : Top index.Selection where
  top := ⟨index.allDocuments, fun _ => id⟩

instance : Bot index.Selection where
  bot := ⟨∅, fun _ impossible => absurd impossible ExtTreeSet.not_mem_empty⟩

instance : Compl index.Selection where
  compl selection := ⟨index.complement selection.set, fun _ member =>
    ((mem_complement ..).mp member).1⟩

instance : SDiff index.Selection where
  sdiff first second := ⟨first.set.difference second.set, fun document member =>
    first.known document ((DocumentSet.mem_difference ..).mp member).1⟩

instance : HImp index.Selection where
  himp first second := firstᶜ ⊔ second

instance : LE index.Selection where
  le first second := ∀ document ∈ first.set, document ∈ second.set

instance : LT index.Selection where
  lt first second := first ≤ second ∧ ¬second ≤ first

/-- The members of a selection, among the documents of the index. -/
def members (selection : index.Selection) : Set {document // document ∈ index.allDocuments} :=
  {document | document.val ∈ selection.set}

section Members

variable (first second : index.Selection)

theorem members_subset_iff : first.members ⊆ second.members ↔ first ≤ second :=
  ⟨fun below document member => below (a := ⟨document, first.known document member⟩) member,
    fun below document => below document.val⟩

theorem members_ssubset_iff :
    (first.members ⊆ second.members ∧ ¬second.members ⊆ first.members) ↔ first < second := by
  rw [members_subset_iff, members_subset_iff]
  rfl

theorem members_injective : Function.Injective (members : index.Selection → _) := by
  intro first second same
  refine Selection.ext (ExtTreeSet.ext_mem fun document => ⟨?_, ?_⟩)
  · exact (members_subset_iff first second).mp same.subset document
  · exact (members_subset_iff second first).mp same.superset document

theorem members_sup : (first ⊔ second).members = first.members ∪ second.members :=
  Set.ext fun _ => DocumentSet.mem_union ..

theorem members_inf : (first ⊓ second).members = first.members ∩ second.members :=
  Set.ext fun _ => DocumentSet.mem_intersection ..

theorem members_top : (⊤ : index.Selection).members = Set.univ :=
  Set.eq_univ_of_forall fun document => document.property

theorem members_bot : (⊥ : index.Selection).members = ∅ :=
  Set.eq_empty_of_forall_notMem fun _ => ExtTreeSet.not_mem_empty

theorem members_compl : firstᶜ.members = first.membersᶜ :=
  Set.ext fun document => (mem_complement ..).trans (and_iff_right document.property)

theorem members_sdiff : (first \ second).members = first.members \ second.members :=
  Set.ext fun _ => DocumentSet.mem_difference ..

theorem members_himp : (first ⇨ second).members = first.members ⇨ second.members := by
  rw [himp_eq, sup_comm, ← members_compl]
  exact members_sup ..

end Members

/-- The selections of an index have the laws of the sets of its documents. -/
instance : BooleanAlgebra index.Selection :=
  members_injective.booleanAlgebra members (members_subset_iff ..) (members_ssubset_iff ..)
    members_sup members_inf members_top members_bot members_compl members_sdiff
    members_himp

end Selection

/-! ## Words -/

/-- The documents that contain a word are documents of a sound index. -/
def Sound.selectionWith {index : Index} (sound : index.Sound) (word : Text) :
    index.Selection where
  set := index.documentsWith word
  known := fun document member => by
    obtain ⟨positions, found⟩ :=
      Option.isSome_iff_exists.mp ((mem_documentsWith ..).mp member)
    exact (mem_allDocuments ..).mpr (sound.known found)

/-- The documents of a word and those without it divide the documents of a sound index. -/
theorem Sound.documentsWith_partition {index : Index} (sound : index.Sound) (word : Text) :
    (index.documentsWith word).intersection (index.documentsWithout word) = ∅ ∧
      (index.documentsWith word).union (index.documentsWithout word) = index.allDocuments := by
  rw [documentsWithout_eq]
  exact ⟨congrArg Selection.set (inf_compl_eq_bot (a := sound.selectionWith word)),
    congrArg Selection.set (sup_compl_eq_top (x := sound.selectionWith word))⟩

/-! ## The laws -/

/-- What holds of all sets of documents of an index, of whatever sizes, and of the sets it
answers with for a word. -/
structure HasSetAlgebra (index : Index) : Prop where
  mem_union : ∀ (first second : index.Selection) (document : Text),
    document ∈ first.set.union second.set ↔ document ∈ first.set ∨ document ∈ second.set
  mem_intersection : ∀ (first second : index.Selection) (document : Text),
    document ∈ first.set.intersection second.set ↔
      document ∈ first.set ∧ document ∈ second.set
  mem_complement : ∀ (first : index.Selection) (document : Text),
    document ∈ index.complement first.set ↔
      document ∈ index.allDocuments ∧ document ∉ first.set
  complement_complement : ∀ first : index.Selection,
    (index.complement (index.complement first.set)).equal first.set
  complement_union : ∀ first second : index.Selection,
    (index.complement (first.set.union second.set)).equal
      ((index.complement first.set).intersection (index.complement second.set))
  complement_intersection : ∀ first second : index.Selection,
    (index.complement (first.set.intersection second.set)).equal
      ((index.complement first.set).union (index.complement second.set))
  intersection_union : ∀ first second third : index.Selection,
    (first.set.intersection (second.set.union third.set)).equal
      ((first.set.intersection second.set).union (first.set.intersection third.set))
  union_intersection : ∀ first second third : index.Selection,
    (first.set.union (second.set.intersection third.set)).equal
      ((first.set.union second.set).intersection (first.set.union third.set))
  difference : ∀ first second : index.Selection,
    (first.set.difference second.set).equal
      (first.set.intersection (index.complement second.set))
  equal_iff : ∀ first second : index.Selection,
    first.set.equal second.set ↔ first.set.toList = second.set.toList
  ascending : ∀ first : index.Selection,
    first.set.toList.Pairwise fun document next => Utf8.encode document < Utf8.encode next
  disjoint : ∀ (word document : Text),
    ¬(document ∈ index.documentsWith word ∧ document ∈ index.documentsWithout word)
  whole : ∀ word : Text,
    ((index.documentsWith word).union (index.documentsWithout word)).equal index.allDocuments
  documentsWithout : ∀ word : Text,
    (index.documentsWithout word).equal (index.complement (index.documentsWith word))

/-- In a valid index document sets form a Boolean algebra with the complement by the index,
and the documents with a word and those without it divide the documents of the index. -/
theorem hasSetAlgebra {index : Index} (valid : index.isValid = true) : index.HasSetAlgebra := by
  have sound := (isValid_iff index).mp valid
  have same : ∀ {first second : index.Selection}, first = second →
      first.set.equal second.set = true := fun equal =>
    (DocumentSet.equal_eq_true_iff ..).mpr (congrArg Selection.set equal)
  exact {
    mem_union := fun _ _ _ => DocumentSet.mem_union ..
    mem_intersection := fun _ _ _ => DocumentSet.mem_intersection ..
    mem_complement := fun _ _ => Index.mem_complement ..
    complement_complement := fun first => same (compl_compl first)
    complement_union := fun first second => same compl_sup
    complement_intersection := fun first second => same compl_inf
    intersection_union := fun first second third => same (inf_sup_left first second third)
    union_intersection := fun first second third => same (sup_inf_left first second third)
    difference := fun first second => same sdiff_eq
    equal_iff := fun _ _ => DocumentSet.equal_eq_true_iff_toList ..
    ascending := fun first => first.set.toList_ascending
    disjoint := fun word document both => by
      have common := (DocumentSet.mem_intersection ..).mpr both
      rw [(sound.documentsWith_partition word).1] at common
      exact ExtTreeSet.not_mem_empty common
    whole := fun word => (DocumentSet.equal_eq_true_iff ..).mpr
      (sound.documentsWith_partition word).2
    documentsWithout := fun word => (DocumentSet.equal_eq_true_iff ..).mpr
      (index.documentsWithout_eq word) }

/-- Two documents with a word in common, and one without words. -/
def mealIndex : Index :=
  ofTexts [("supper", "cold rice"), ("lunch", "rice, fish and rice"), ("tea", "")]

theorem hasSetAlgebra_meals :
    mealIndex.isValid = true ∧ mealIndex.HasSetAlgebra ∧
      (mealIndex.documentsWith "rice").toList = ["lunch", "supper"] ∧
      (mealIndex.documentsWithout "rice").toList = ["tea"] ∧
      (mealIndex.complement (mealIndex.documentsWith "fish")).toList = ["supper", "tea"] := by
  have valid : mealIndex.isValid = true := by decide +kernel
  exact ⟨valid, hasSetAlgebra valid, by decide +kernel, by decide +kernel, by decide +kernel⟩

end Index

end Concordance
