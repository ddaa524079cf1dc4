import Concordance.Command.Process
import Concordance.Proofs.Disk.Writing
import Concordance.Proofs.Index.Algebra
import Concordance.Proofs.Query.Meaning
import Concordance.Proofs.Storage.Saving

/-!
Contract: the pages that queries are answered with.

All documents that match are found and put in order before any of them is left out, so that
the count is that of all, and a limit leaves the first of them. What is answered depends on the
index alone, and not on the file it is kept in.

Owns:
- what a page shows, and what is printed of it;
- indexes that are saved anew, in either format;
- the answer to a query for every limit.

Does not own: which documents match (`Concordance.Proofs.Query.Meaning`) and which indexes are
read back from files (`Concordance.Proofs.Storage.Saving`).
-/

set_option autoImplicit false

namespace Concordance.Command

/-! ## Pages -/

section OfMatches

variable (query : Text) (limit : Option Nat) (matching : DocumentSet) (duration : Nat)

theorem documents_ofMatches :
    (Page.ofMatches query limit matching duration).documents
      = limit.elim matching.toList matching.toList.take := by
  cases limit <;> rfl

theorem total_ofMatches :
    (Page.ofMatches query limit matching duration).total = matching.toList.length :=
  Std.ExtTreeSet.length_toList.symm

theorem length_documents_ofMatches_le :
    (Page.ofMatches query limit matching duration).documents.length
      ≤ (Page.ofMatches query limit matching duration).total := by
  rw [documents_ofMatches, total_ofMatches]
  cases limit with
  | none => exact Nat.le_refl _
  | some limit => exact List.length_take_le' limit matching.toList

end OfMatches

/-- A page is printed with a line for each document on it, a line with the number of those that
are not on it if there are any, and the number of all. -/
theorem Page.render_eq {page : Page} (within : page.documents.length ≤ page.total) :
    ∃ left, page.documents.length + left = page.total ∧
      page.render = Text.concat (page.documents.map fun document => line [document])
        ++ (if left = 0 then [] else line ["... ", Text.decimal left, " more"])
        ++ Text.concat [Text.decimal page.total, " documents matched in ",
          Text.decimal page.duration, "ms"] := by
  refine ⟨page.hidden, Nat.add_sub_cancel' within, ?_⟩
  rw [render, renderHidden]
  simp only [Text.concat, List.flatten_cons, List.flatten_nil, List.append_nil,
    List.append_assoc]

/-! ## Answers -/

theorem ask_of_parse {disk : Disk} {asking : Asking} {index : Index} {tree : Query.Tree}
    (loaded : Storage.load disk asking.index = .ok index)
    (accepted : Query.parse asking.depthLimit asking.query = .ok tree) :
    (ask disk asking).result
      = .ok (.page (.ofMatches asking.query asking.limit (Query.evaluate index tree) 0)) := by
  have read : readQuery asking.depthLimit asking.query = .ok tree := by
    rw [readQuery, accepted]
  simp only [ask, loaded, read]

/-- What is printed of an answer comes from the answer alone. -/
theorem output_ending_congr {outcome other : Outcome} (same : outcome.result = other.result)
    (environment : Environment) (settings : Settings) (duration : Nat) :
    (outcome.ending environment settings duration).output
      = (other.ending environment settings duration).output := by
  unfold Outcome.ending
  rw [same]
  cases other.result <;> rfl

theorem line_singleton (part : Text) : line [part] = part ++ ['\n'] := by
  rw [line, Text.concat, List.flatten_singleton]

/-- How a page is printed for readers, with the time that it took. -/
theorem output_page {outcome : Outcome} {page : Page} (answered : outcome.result = .ok (.page page))
    (environment : Environment) {settings : Settings} (human : settings.style = .human)
    (duration : Nat) :
    (outcome.ending environment settings duration).output
      = (if 1 < settings.verbosity then line ["Query results", "\n"] else [])
        ++ ({ page with duration }.render ++ ['\n']) := by
  have printed : (outcome.ending environment settings duration).output
      = print settings (.page { page with duration }) := by
    unfold Outcome.ending
    rw [answered]
    rfl
  rw [printed, print, human, ← line_singleton]
  rfl

/-! ## Indexes that are saved anew -/

theorem isValid_of_load {disk : Disk} {path : Text} {index : Index}
    (loaded : Storage.load disk path = .ok index) : index.isValid = true ∧ index.IsNarrow := by
  unfold Storage.load at loaded
  split at loaded
  · cases loaded
  · split at loaded
    · cases loaded
    · rename_i decoded
      cases loaded
      exact Storage.isValid_of_decode decoded

/-- An index that was loaded is loaded from the file that it is written to, in either format and
with its entries in any order. -/
theorem load_of_write {disk changed : Disk} {path other : Text} {index : Index}
    {listing : Storage.Listing} {format : Storage.Format}
    (loaded : Storage.load disk path = .ok index) (lists : listing.Lists index)
    (short : format = .binary → (Storage.Packed.encode listing).length < 0x10000000000000000)
    (written : disk.write (Utf8.encode other) (Storage.file format listing) = .ok changed) :
    Storage.load changed other = .ok index := by
  obtain ⟨valid, narrow⟩ := isValid_of_load loaded
  have sound := (Index.isValid_iff index).mp valid
  have decoded := (Storage.decode_file_iff sound lists).mpr ⟨narrow, short⟩
  unfold Storage.load
  rw [Disk.read_of_write written]
  simp only [decoded]

/-! ## Queries -/

/-- A query that is read is answered from a list of all documents that match, each once, in the
order of their bytes. For every limit, the page shows the first of them and counts all; the number
of documents that are printed and the number of those that are said to be left make up the count.
The page is the same if the index is saved anew. -/
theorem ask_page {disk : Disk} {asking : Asking} {index : Index} {tree : Query.Tree}
    (loaded : Storage.load disk asking.index = .ok index)
    (accepted : Query.parse asking.depthLimit asking.query = .ok tree) :
    ∃ matching : List Text,
      matching.Pairwise (fun first second => Utf8.encode first < Utf8.encode second) ∧
      (∀ document, document ∈ matching ↔
        document ∈ index.allDocuments ∧ tree.Satisfied (Query.Literal.Holds index document)) ∧
      (∀ fewer more, fewer ≤ more → matching.take fewer <+: matching.take more) ∧
      ∀ limit : Option Nat, ∃ page,
        (ask disk { asking with limit }).result = .ok (.page page) ∧
        page.query = asking.query ∧
        page.documents = limit.elim matching matching.take ∧
        page.total = matching.length ∧
        (∀ environment settings duration, settings.style = .human → ∃ left,
          page.documents.length + left = page.total ∧
          ((ask disk { asking with limit }).ending environment settings duration).output
            = (if 1 < settings.verbosity then line ["Query results", "\n"] else [])
              ++ Text.concat (page.documents.map fun document => line [document])
              ++ (if left = 0 then [] else line ["... ", Text.decimal left, " more"])
              ++ line [Text.decimal page.total, " documents matched in ", Text.decimal duration,
                "ms"]) ∧
        ∀ (format : Storage.Format) (listing : Storage.Listing) (other : Text) (changed : Disk),
          listing.Lists index →
          (format = .binary →
            (Storage.Packed.encode listing).length < 0x10000000000000000) →
          disk.write (Utf8.encode other) (Storage.file format listing) = .ok changed →
          (ask changed { asking with limit, index := other }).result = .ok (.page page) ∧
            ∀ environment settings duration,
              ((ask changed { asking with limit, index := other }).ending environment settings
                  duration).output
                = ((ask disk { asking with limit }).ending environment settings
                    duration).output := by
  have sound := (Index.isValid_iff index).mp (isValid_of_load loaded).1
  refine ⟨(Query.evaluate index tree).toList, DocumentSet.toList_ascending _, fun document => ?_,
    fun fewer more le => List.take_prefix_take_left le, fun limit => ?_⟩
  · rw [Std.ExtTreeSet.mem_toList, Query.mem_evaluate_of_sound sound]
  · let page : Page := .ofMatches asking.query limit (Query.evaluate index tree) 0
    have answered : (ask disk { asking with limit }).result = .ok (.page page) :=
      ask_of_parse loaded accepted
    refine ⟨page, answered, rfl, documents_ofMatches _ _ _ _, total_ofMatches _ _ _ _, ?_, ?_⟩
    · intro environment settings duration human
      have within : ({ page with duration } : Page).documents.length
          ≤ ({ page with duration } : Page).total :=
        length_documents_ofMatches_le asking.query limit (Query.evaluate index tree) 0
      obtain ⟨left, whole, rendered⟩ := Page.render_eq within
      refine ⟨left, whole, ?_⟩
      rw [output_page answered environment human, rendered]
      simp only [line, List.append_assoc]
    · intro format listing other changed lists short written
      have again : (ask changed { asking with limit, index := other }).result
          = .ok (.page page) :=
        ask_of_parse (load_of_write loaded lists short written) accepted
      exact ⟨again, output_ending_congr (again.trans answered.symm)⟩

/-- Two documents with one word in common, in no particular order. -/
def shelfListing : Storage.Listing :=
  ⟨[("fox", [("b", [2]), ("a", [1])])], [("b", 2), ("a", 1)]⟩

def shelf : Disk where
  entries := [(Utf8.encode "index.db", .file (Storage.file .json shelfListing))]
  current := []

theorem load_shelf : Storage.load shelf "index.db" = .ok shelfListing.index := by
  have lists : shelfListing.Lists shelfListing.index :=
    Storage.Listing.lists_index (by decide) (by decide) (by decide)
  have valid : shelfListing.index.isValid = true := by decide +kernel
  have narrow : shelfListing.index.IsNarrow := by decide +kernel
  have decoded : Storage.decode (Storage.file .json shelfListing) = .ok shelfListing.index :=
    Storage.decode_eq_ok (Storage.detect_document shelfListing)
      (Storage.listing?_file_json ((Index.isValid_iff _).mp valid) narrow lists) lists valid
  have read : shelf.read (Utf8.encode "index.db") = .ok (Storage.file .json shelfListing) := by
    decide +kernel
  unfold Storage.load
  simp only [read, decoded]

/-- A page with one of two documents, which it is still when the index is saved as a binary
file. -/
theorem ask_page_shelf :
    ∃ matching : List Text,
      matching.Pairwise (fun first second => Utf8.encode first < Utf8.encode second) ∧
      matching.length = 2 ∧ matching.take 1 = ["a".toList] ∧
      ∃ changed, shelf.write (Utf8.encode "fox.db") (Storage.file .binary shelfListing)
          = .ok changed ∧
        (ask changed ⟨"fox", "fox.db", some 1, 8⟩).result = .ok (.page ⟨"fox", ["a"], 2, 0⟩) := by
  let tree : Query.Tree := .literal ⟨false, ⟨0, 3⟩⟩ ⟨["fox"], false⟩
  obtain ⟨matching, ascending, _, _, pages⟩ :=
    @ask_page shelf ⟨"fox", "index.db", none, 8⟩ _ tree load_shelf (by decide +kernel)
  obtain ⟨page, answered, _, documents, total, _, again⟩ := pages (some 1)
  have shown : (ask shelf ⟨"fox", "index.db", some 1, 8⟩).result
      = .ok (.page ⟨"fox", ["a"], 2, 0⟩) := by
    decide +kernel
  cases answered.symm.trans shown
  have room : (shelf.write (Utf8.encode "fox.db") (Storage.file .binary shelfListing)).isOk
      = true := by
    decide +kernel
  cases written : shelf.write (Utf8.encode "fox.db") (Storage.file .binary shelfListing) with
  | error fault =>
      rw [written] at room
      cases room
  | ok changed =>
      have lists : shelfListing.Lists shelfListing.index :=
        Storage.Listing.lists_index (by decide) (by decide) (by decide)
      obtain ⟨same, _⟩ :=
        again .binary shelfListing "fox.db" changed lists (fun _ => by decide +kernel) written
      exact ⟨matching, ascending, total.symm, documents.symm, changed, rfl, same⟩

end Concordance.Command
