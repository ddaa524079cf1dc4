import Concordance.Proofs.Json.Yields
import Concordance.Proofs.Storage.Listing
import Concordance.Storage.Format

/-!
Contract: cursors that are read from index files fit into four bytes.

What a file holds is up to whoever wrote it, and so the bound is that of the readers:
whatever the bytes are, no reader of a cursor takes a larger number.

Owns:
- the properties of the values that packed readers take;
- the cursors of both formats;
- that files give valid indexes whose cursors fit into four bytes.

Does not own: which files are read at all.
-/

set_option autoImplicit false

namespace Concordance.Storage

open Concordance.Json (Reader)
open Std (ExtTreeMap)

/-! ## Packed values -/

namespace Integer

theorem ofLittleEndian_lt (bytes : Bytes) :
    ofLittleEndian bytes < Nat.pow 256 bytes.length := by
  induction bytes with
  | nil => exact Nat.one_pos
  | cons byte rest inductionHypothesis =>
      have low := byte.toNat_lt
      rw [ofLittleEndian, List.length_cons]
      show _ < Nat.pow 256 rest.length * 256
      omega

theorem readFixed_lt {count value : Nat} {bytes rest : Bytes}
    (read : readFixed count bytes = some (value, rest)) : value < Nat.pow 256 count := by
  unfold readFixed at read
  split at read
  · rename_i enough
    cases read
    have bound := ofLittleEndian_lt (bytes.take count)
    rw [List.length_take_of_le enough] at bound
    exact bound
  · cases read

theorem decode_fourBytes_lt {bytes rest : Bytes} {value : Nat}
    (read : decode .fourBytes bytes = some (value, rest)) : value < 0x100000000 := by
  cases bytes with
  | nil => cases read
  | cons marker following =>
      rw [decode] at read
      split at read
      · cases read
        omega
      · split at read
        · exact Nat.lt_trans (readFixed_lt read) (by decide)
        · split at read
          · exact Nat.lt_of_lt_of_eq (readFixed_lt read) (by decide)
          · split at read
            · -- Eight bytes are refused at this width.
              rename_i wide
              cases wide.2
            · cases read

end Integer

namespace Packed

variable {α β : Type}

/-- Every value that a reader takes has a property. -/
def Yields (reader : Reader α) (property : α → Prop) : Prop :=
  ∀ bytes value rest, reader bytes = some (value, rest) → property value

theorem yields_readPosition : Yields readPosition (· < 0x100000000) :=
  fun _ _ _ => Integer.decode_fourBytes_lt

theorem yields_readPair {second : Reader β} {property : β → Prop}
    (yields : Yields second property) (first : Reader α) :
    Yields (readPair first second) fun pair => property pair.2 := by
  intro bytes pair rest read
  unfold readPair at read
  split at read
  · cases read
  · obtain ⟨⟨value, behind⟩, found, ⟨⟩⟩ := Option.map_eq_some_iff.mp read
    exact yields _ _ _ found

theorem yields_readMany {reader : Reader α} {property : α → Prop}
    (yields : Yields reader property) (count : Nat) :
    Yields (readMany reader count) fun items => ∀ item ∈ items, property item := by
  induction count with
  | zero =>
      intro bytes items rest read
      cases read
      intro item member
      cases member
  | succ count inductionHypothesis =>
      intro bytes items rest read
      rw [readMany] at read
      split at read
      · cases read
      · rename_i item following first
        obtain ⟨⟨others, behind⟩, found, ⟨⟩⟩ := Option.map_eq_some_iff.mp read
        rw [List.forall_mem_cons]
        exact ⟨yields _ _ _ first, inductionHypothesis _ _ _ found⟩

theorem yields_readList {reader : Reader α} {property : α → Prop}
    (yields : Yields reader property) :
    Yields (readList reader) fun items => ∀ item ∈ items, property item := by
  intro bytes items rest read
  unfold readList at read
  split at read
  · cases read
  · exact yields_readMany yields _ _ _ _ read

theorem cursor_lt_of_decode {bytes : Bytes} {listing : Listing}
    (read : decode bytes = some listing) :
    ∀ entry ∈ listing.documents, entry.2 < 0x100000000 := by
  obtain ⟨⟨parts, rest⟩, found, rfl⟩ := Option.map_eq_some_iff.mp read
  have documents : Yields readDocuments fun entries => ∀ entry ∈ entries, entry.2 < 0x100000000 :=
    yields_readList (yields_readPair yields_readPosition readText)
  exact yields_readPair documents readTerms _ _ _ found

end Packed

/-! ## JSON documents -/

namespace Document

theorem yields_once {α : Type} {value : Reader α} {property : α → Prop}
    (yields : value.Yields property) (earlier : Option α) :
    (once earlier value).Yields property := by
  cases earlier with
  | none => exact yields.assigned
  | some _ => exact Reader.Yields.refuse _ _

theorem yields_cursorMember {cursor : Option Nat} (narrow : ∀ value ∈ cursor, value < 0x100000000)
    (name : Text) : (cursorMember cursor name).Yields fun cursor =>
      ∀ value ∈ cursor, value < 0x100000000 := by
  unfold cursorMember
  split
  · refine (yields_once (Reader.Yields.natural _) cursor).map fun value below other member => ?_
    cases member
    exact below
  · exact (Reader.Yields.trivial _).map fun _ _ => narrow

theorem yields_cursorList : cursorList.Yields (· < 0x100000000) := by
  have item : (position.andThen fun cursor =>
      (Reader.exactly 0x5D).afterBlanks.map fun _ => cursor).Yields (· < 0x100000000) :=
    (Reader.Yields.natural _).andThen fun _ below =>
      (Reader.Yields.trivial _).map fun _ _ => below
  refine Reader.Yields.opened (fun bytes taken read => ?_) 0x5B
  split at read
  · cases read
  · cases read
  · split at read
    · cases read
    · rename_i taken found
      cases read
      have below : taken.value < 0x100000000 := item _ _ found
      exact below

theorem yields_cursor : cursor.Yields (· < 0x100000000) := by
  refine Reader.Yields.afterBlanks fun bytes taken read => ?_
  split at read
  · exact yields_cursorList _ _ read
  · have record : (Reader.record cursorMember none).Yields fun cursor =>
        ∀ value ∈ cursor, value < 0x100000000 :=
      Reader.yields_record (fun _ name narrow => yields_cursorMember narrow name)
        (fun _ member => by cases member)
    refine record.refine (· < 0x100000000) (fun cursor value narrow given => ?_) _ _ read
    cases cursor with
    | none => cases given
    | some value =>
        cases given
        exact narrow value rfl

/-- The cursors among the parts that have been read fit into four bytes. -/
def Parts.IsNarrow (parts : Parts) : Prop :=
  ∀ documents ∈ parts.documents, ∀ entry ∈ documents, entry.2 < 0x100000000

theorem yields_member {parts : Parts} (narrow : parts.IsNarrow) (name : Text) :
    (member parts name).Yields Parts.IsNarrow := by
  unfold member
  split
  · exact (Reader.Yields.trivial _).map fun _ _ => narrow
  · split
    · refine (yields_once (Reader.yields_table yields_cursor) parts.documents).map
        fun entries below documents given => ?_
      cases given
      exact below
    · exact (Reader.Yields.trivial _).map fun _ _ => narrow

theorem yields_listing :
    listing.Yields fun listing => ∀ entry ∈ listing.documents, entry.2 < 0x100000000 := by
  have parts : (Reader.record member ⟨none, none⟩).Yields Parts.IsNarrow :=
    Reader.yields_record (fun _ name narrow => yields_member narrow name)
      (fun _ given => by cases given)
  refine parts.refine _ fun parts listing narrow given => ?_
  split at given
  · rename_i terms documents _ present
    cases given
    exact narrow documents present
  · cases given

theorem cursor_lt_of_decode {bytes : Bytes} {written : Listing}
    (read : decode bytes = .ok written) :
    ∀ entry ∈ written.documents, entry.2 < 0x100000000 := by
  unfold decode Json.document at read
  split at read
  · cases read
  · rename_i taken found
    split at read
    · cases read
      exact yields_listing _ _ found
    · cases read

end Document

/-! ## Whole files -/

theorem cursor_lt_of_listing? {format : Format} {kept : Bytes} {listing : Listing}
    (read : listing? format kept = .ok listing) :
    ∀ entry ∈ listing.documents, entry.2 < 0x100000000 := by
  unfold listing? at read
  split at read
  · split at read
    · cases read
    · split at read
      · cases read
      · rename_i found
        cases read
        exact Packed.cursor_lt_of_decode found
  · split at read
    · cases read
    · rename_i found
      cases read
      exact Document.cursor_lt_of_decode found

/-- What a map made of entries has is one of the entries. -/
theorem mem_of_getElem?_ofList {α : Type} {entries : List (Text × α)} {key : Text} {value : α}
    (found : (ExtTreeMap.ofList entries)[key]? = some value) : (key, value) ∈ entries := by
  rw [ExtTreeMap.ofList_eq_insertMany_empty, ExtTreeMap.getElem?_insertMany_list,
    ExtTreeMap.getElem?_empty, Option.or_none, List.findSomeRev?_eq_findSome?_reverse] at found
  obtain ⟨⟨other, kept⟩, member, same⟩ := List.exists_of_findSome?_eq_some found
  dsimp only at same
  split at same
  · rename_i equal
    cases same
    cases Std.LawfulEqOrd.eq_of_compare equal
    exact List.mem_reverse.mp member
  · cases same

/-- An index that a file keeps is valid, and its cursors fit into four bytes. -/
theorem isValid_of_decode {kept : Bytes} {index : Index} (read : decode kept = .ok index) :
    index.isValid = true ∧ index.IsNarrow := by
  unfold decode at read
  split at read
  · cases read
  · split at read
    · cases read
    · rename_i listing found
      unfold Listing.validIndex at read
      split at read
      · cases read
      · rename_i faultless
        cases read
        refine ⟨Option.isNone_iff_eq_none.mpr faultless, fun document cursor known => ?_⟩
        exact cursor_lt_of_listing? found (document, cursor) (mem_of_getElem?_ofList known)

end Concordance.Storage
