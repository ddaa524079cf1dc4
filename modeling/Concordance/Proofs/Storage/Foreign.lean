import Concordance.Proofs.Index.Layout
import Concordance.Proofs.Storage.Bounds

/-!
Contract: what a file that anyone may have written says of its documents.

Reading checks each list of positions by itself. So each word alone is placed as it could
be in a text, and no more than this is known of a file: nothing compares the positions of
different words, and nothing asks that a word has documents.

Owns:
- which files give an index that describes a text;
- a file that is read although it describes none.

Does not own: indexes that describe texts in general (`Concordance.Proofs.Index.Layout`).
-/

set_option autoImplicit false

namespace Concordance.Storage

/-- Two words claim the only position of a document, and a third word has no document. -/
def overlapping : Listing where
  terms := [("a", [("d", [1])]), ("b", [("d", [1])]), ("c", [])]
  documents := [("d", 1)]

/-- A file is read in both formats although it breaks each law of texts: two words claim one
position, a word has no document, there are more occurrences than words indexed, and more
entries than words that have documents. -/
theorem decode_overlapping :
    decode (file .json overlapping) = .ok overlapping.index ∧
      decode (file .binary overlapping) = .ok overlapping.index ∧
      ¬overlapping.index.ClaimsOnce ∧ ¬overlapping.index.IsInhabited ∧
      ¬overlapping.index.statistics.positions ≤ overlapping.index.cursorTotal ∧
      overlapping.index.termCount
        ≠ {word | overlapping.index.documentsWith word ≠ ∅}.ncard ∧
      ¬overlapping.index.DescribesText := by
  have together : ¬overlapping.index.ClaimsOnce := fun once =>
    absurd (once "a" "b" "d" 1 (by decide +kernel) (by decide +kernel)) (by decide)
  have deserted : ¬overlapping.index.IsInhabited := fun inhabited =>
    inhabited "c" (by decide +kernel) (by decide +kernel)
  exact ⟨by decide +kernel, by decide +kernel, together, deserted, by decide +kernel,
    fun same => deserted (overlapping.index.termCount_eq_ncard_iff.mp same),
    fun describes => together describes.claimsOnce⟩

/-- An index that is read from a file, in either format, places each word by itself as it
could stand in a text: its positions in a document of the index are a list that is not empty
and ascends strictly from one to the cursor, so that it has no more occurrences than there
are words indexed. Just if no position is claimed by two words the index has a layout, and
then all words together have no more occurrences either. There are no fewer entries than
words that have documents, and no more just if every word has some. -/
theorem wordwise_of_decode {kept : Bytes} {index : Index} (read : decode kept = .ok index) :
    (∀ word document positions, index.positions? word document = some positions →
      ∃ cursor, index.cursor? document = some cursor ∧ positions ≠ [] ∧
        positions.Pairwise (· < ·) ∧
          ∀ position ∈ positions, 1 ≤ position ∧ position ≤ cursor) ∧
    (∀ word, ∑ document ∈ index.documentsOf word,
      ((index.positions? word document).getD []).length ≤ index.cursorTotal) ∧
    (index.ClaimsOnce ↔ ∃ layout, index.LaidOut layout) ∧
    (index.ClaimsOnce → index.statistics.positions ≤ index.cursorTotal) ∧
    {word | index.documentsWith word ≠ ∅}.ncard ≤ index.termCount ∧
    (index.termCount = {word | index.documentsWith word ≠ ∅}.ncard ↔ index.IsInhabited) ∧
    (index.DescribesText ↔ index.ClaimsOnce ∧ index.IsInhabited) := by
  have valid := (isValid_of_decode read).1
  have sound := (Index.isValid_iff index).mp valid
  refine ⟨fun word document positions found => ?_, sound.occurrences_of_word_le,
    sound.claimsOnce_iff, sound.occurrences_le, index.ncard_documentsWith_le,
    index.termCount_eq_ncard_iff, sound.describesText_iff⟩
  have faultless := (Index.isValid_iff_forall index).mp valid word document positions found
  exact (Index.positionsDefect?_eq_none_iff ..).mp faultless

/-- Also in a file that describes no text each word alone has room. -/
theorem wordwise_of_decode_overlapping :
    decode (file .binary overlapping) = .ok overlapping.index ∧
      (∑ document ∈ overlapping.index.documentsOf "b",
        ((overlapping.index.positions? "b" document).getD []).length
          ≤ overlapping.index.cursorTotal) ∧
      {word | overlapping.index.documentsWith word ≠ ∅}.ncard ≤ overlapping.index.termCount := by
  have read : decode (file .binary overlapping) = .ok overlapping.index := by decide +kernel
  have wordwise := wordwise_of_decode read
  exact ⟨read, wordwise.2.1 "b", wordwise.2.2.2.2.1⟩

end Concordance.Storage
