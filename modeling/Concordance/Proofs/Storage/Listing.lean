import Concordance.Proofs.Index.Sound
import Concordance.Storage.Listing
import Mathlib.Data.List.Forall2
import Mathlib.Data.List.Nodup

/-!
Contract: the listings of an index.

An index file may hold the entries of an index in any order: that of the words, that of
the documents of each word, and that of the documents. All of them give the index back.

Owns:
- listings of an index, and that its ascending listing is one;
- that the index of such a listing is the one that was listed;
- indexes whose cursors fit into four bytes, and the bound on their positions.

Does not own: how a listing becomes bytes.
-/

set_option autoImplicit false

namespace Concordance

open Std (ExtTreeMap)

/-- Every cursor of an index fits into four bytes. -/
def Index.IsNarrow (index : Index) : Prop :=
  ∀ document cursor, index.cursor? document = some cursor → cursor < 0x100000000

theorem Index.isNarrow_iff (index : Index) :
    index.IsNarrow ↔ ∀ entry ∈ index.documents.toList, entry.2 < 0x100000000 := by
  constructor
  · rintro narrow ⟨document, cursor⟩ member
    exact narrow document cursor (ExtTreeMap.mem_toList_iff_getElem?_eq_some.mp member)
  · intro narrow document cursor known
    exact narrow (document, cursor) (ExtTreeMap.mem_toList_iff_getElem?_eq_some.mpr known)

instance (index : Index) : Decidable index.IsNarrow :=
  decidable_of_iff _ index.isNarrow_iff.symm

namespace Storage

/-- Written-down entries of a map give the map back, in whatever order they stand. -/
theorem ofList_eq_of_perm {α : Type} {entries : List (Text × α)} {map : ExtTreeMap Text α}
    (perm : entries.Perm map.toList) : ExtTreeMap.ofList entries = map := by
  have distinct : entries.Pairwise fun first second =>
      ¬compare first.1 second.1 = .eq :=
    perm.symm.pairwise ExtTreeMap.distinct_keys_toList
      fun different same => different (Std.OrientedCmp.eq_symm same)
  apply ExtTreeMap.ext_getElem?
  intro key
  cases found : map[key]? with
  | some value =>
      have listed : (key, value) ∈ entries :=
        perm.mem_iff.mpr (ExtTreeMap.mem_toList_iff_getElem?_eq_some.mpr found)
      exact ExtTreeMap.getElem?_ofList_of_mem Std.compare_self distinct listed
  | none =>
      apply ExtTreeMap.getElem?_ofList_of_contains_eq_false
      rw [List.contains_eq_mem, decide_eq_false_iff_not]
      intro listed
      obtain ⟨⟨_, value⟩, member, rfl⟩ := List.mem_map.mp listed
      have present := ExtTreeMap.mem_toList_iff_getElem?_eq_some.mp (perm.mem_iff.mp member)
      cases found.symm.trans present

/-- Entries with different keys are those of the map that they make up. -/
theorem perm_toList_ofList {α : Type} {entries : List (Text × α)}
    (distinct : (entries.map Prod.fst).Nodup) :
    entries.Perm (ExtTreeMap.ofList entries).toList := by
  have different : entries.Pairwise fun first second => ¬compare first.1 second.1 = .eq :=
    (List.pairwise_map.mp distinct).imp fun differs same =>
      differs (Std.LawfulEqOrd.eq_of_compare same)
  have listed : ∀ {key value}, (key, value) ∈ entries →
      (ExtTreeMap.ofList entries)[key]? = some value :=
    fun member => ExtTreeMap.getElem?_ofList_of_mem Std.compare_self different member
  have once : (ExtTreeMap.ofList entries).toList.Nodup := by
    refine ExtTreeMap.distinct_keys_toList.imp ?_
    rintro entry _ differs rfl
    exact differs Std.compare_self
  refine (List.perm_ext_iff_of_nodup (List.Nodup.of_map _ distinct) once).mpr
    fun ⟨key, value⟩ => ?_
  rw [ExtTreeMap.mem_toList_iff_getElem?_eq_some]
  refine ⟨listed, fun found => ?_⟩
  cases known : (entries.map Prod.fst).contains key with
  | false =>
      rw [ExtTreeMap.getElem?_ofList_of_contains_eq_false known] at found
      cases found
  | true =>
      obtain ⟨⟨_, other⟩, member, rfl⟩ :=
        List.mem_map.mp (List.contains_iff_mem.mp known)
      cases found.symm.trans (listed member)
      exact member

namespace Listing

/-- Postings are written down under their word, in some order. -/
def ListsTerm (written : Text × List (Text × List Nat)) (entry : Text × Postings) : Prop :=
  written.1 = entry.1 ∧ written.2.Perm entry.2.toList

/-- A listing holds the entries of an index, at every level in some order. -/
structure Lists (listing : Listing) (index : Index) : Prop where
  terms : ∃ entries, entries.Perm index.terms.toList ∧
    List.Forall₂ ListsTerm listing.terms entries
  documents : listing.documents.Perm index.documents.toList

theorem map_ofList_eq {written : List (Text × List (Text × List Nat))}
    {entries : List (Text × Postings)} (lists : List.Forall₂ ListsTerm written entries) :
    written.map (fun entry => (entry.1, ExtTreeMap.ofList entry.2)) = entries := by
  induction lists with
  | nil => rfl
  | cons term _ inductionHypothesis =>
      rw [List.map_cons, inductionHypothesis, term.1, ofList_eq_of_perm term.2]

theorem exists_of_mem {written : List (Text × List (Text × List Nat))}
    {entries : List (Text × Postings)} (lists : List.Forall₂ ListsTerm written entries)
    {term : Text × List (Text × List Nat)} (member : term ∈ written) :
    ∃ entry ∈ entries, ListsTerm term entry := by
  induction lists with
  | nil => cases member
  | cons head _ inductionHypothesis =>
      rcases List.mem_cons.mp member with rfl | later
      · exact ⟨_, List.mem_cons_self, head⟩
      · obtain ⟨entry, found, lists⟩ := inductionHypothesis later
        exact ⟨entry, List.mem_cons_of_mem _ found, lists⟩

theorem Lists.index_eq {listing : Listing} {index : Index} (lists : listing.Lists index) :
    listing.index = index := by
  obtain ⟨entries, perm, terms⟩ := lists.terms
  unfold Listing.index
  rw [map_ofList_eq terms, ofList_eq_of_perm perm, ofList_eq_of_perm lists.documents]

theorem Lists.cursor? {listing : Listing} {index : Index} (lists : listing.Lists index)
    {document : Text} {cursor : Nat} (listed : (document, cursor) ∈ listing.documents) :
    index.cursor? document = some cursor :=
  ExtTreeMap.mem_toList_iff_getElem?_eq_some.mp (lists.documents.mem_iff.mp listed)

theorem Lists.positions? {listing : Listing} {index : Index} (lists : listing.Lists index)
    {word document : Text} {postings : List (Text × List Nat)} {positions : List Nat}
    (term : (word, postings) ∈ listing.terms) (posting : (document, positions) ∈ postings) :
    index.positions? word document = some positions := by
  obtain ⟨entries, perm, terms⟩ := lists.terms
  obtain ⟨⟨_, found⟩, entry, rfl, within⟩ := exists_of_mem terms term
  have reached := ExtTreeMap.mem_toList_iff_getElem?_eq_some.mp (perm.mem_iff.mp entry)
  rw [Index.positions?, Index.postings?, reached]
  exact ExtTreeMap.mem_toList_iff_getElem?_eq_some.mp (within.mem_iff.mp posting)

theorem Lists.cursor_lt {listing : Listing} {index : Index} (lists : listing.Lists index)
    (narrow : index.IsNarrow) :
    ∀ entry ∈ listing.documents, entry.2 < 0x100000000 :=
  fun entry listed => narrow entry.1 entry.2 (lists.cursor? listed)

/-- Positions of a sound index do not lie past the cursors. -/
theorem Lists.position_lt {listing : Listing} {index : Index} (lists : listing.Lists index)
    (sound : index.Sound) (narrow : index.IsNarrow) :
    ∀ term ∈ listing.terms, ∀ posting ∈ term.2, ∀ position ∈ posting.2,
      position < 0x100000000 := by
  intro term written posting below position member
  have found := lists.positions? written below
  obtain ⟨cursor, known⟩ := Option.isSome_iff_exists.mp (sound.known found)
  exact Nat.lt_of_le_of_lt (sound.bounded found known position member)
    (narrow posting.1 cursor known)

/-- Entries in any order are a listing of their index, as long as no key repeats. -/
theorem lists_index {listing : Listing} (words : (listing.terms.map Prod.fst).Nodup)
    (postings : ∀ term ∈ listing.terms, (term.2.map Prod.fst).Nodup)
    (documents : (listing.documents.map Prod.fst).Nodup) :
    listing.Lists listing.index where
  terms := by
    refine ⟨_, perm_toList_ofList ?_, ?_⟩
    · rwa [List.map_map]
    · rw [List.forall₂_map_right_iff]
      exact List.forall₂_same.mpr fun term member =>
        ⟨rfl, perm_toList_ofList (postings term member)⟩
  documents := perm_toList_ofList documents

end Listing

theorem lists_listing (index : Index) : (listing index).Lists index where
  terms := ⟨index.terms.toList, .refl _, by
    rw [listing, List.forall₂_map_left_iff]
    exact List.forall₂_same.mpr fun entry _ => ⟨rfl, .refl _⟩⟩
  documents := .refl _

end Storage

end Concordance
