import Concordance.Proofs.Index.Growth
import Concordance.Proofs.Storage.Bounds
import Concordance.Proofs.Storage.Document

/-!
Contract: the indexes that can be obtained at all.

An index begins empty or is loaded, and is changed by texts and by other indexes, any
number of times and in any order. Being valid is kept by each of these steps, and nothing
more is: every valid index whose cursors fit into four bytes is the index of some file.

Owns:
- the indexes that are obtained while all cursors fit into four bytes;
- that they are the valid ones.

Does not own: what one change does to an index (`Concordance.Proofs.Index.Growth`).
-/

set_option autoImplicit false

namespace Concordance.Storage

/-- The indexes that are obtained by any finite sequence of steps, none of which leaves a
cursor that does not fit into four bytes. An index may be merged with any other one that
is obtained, itself included, and may be written in either format, with its entries in
any order, and read back. -/
inductive Obtained : Index → Prop
  | empty : Obtained Index.empty
  | loaded {kept : Bytes} {index : Index} (read : decode kept = .ok index) : Obtained index
  | addText {index : Index} (obtained : Obtained index) (document text : Text)
      (narrow : (index.addText document text).1.IsNarrow) :
      Obtained (index.addText document text).1
  | merge {index other : Index} (obtained : Obtained index) (others : Obtained other)
      (narrow : (index.merge other).IsNarrow) : Obtained (index.merge other)
  | restored {index back : Index} {listing : Listing} (obtained : Obtained index)
      (lists : listing.Lists index) (format : Format)
      (read : decode (file format listing) = .ok back) : Obtained back

namespace Obtained

variable {index : Index}

/-- What has been read is valid by the check on reading, and every other step keeps the
index sound. The induction is on the sequence of steps. -/
theorem sound (obtained : Obtained index) : index.Sound := by
  induction obtained with
  | empty => exact Index.Sound.empty
  | loaded read => exact (Index.isValid_iff _).mp (isValid_of_decode read).1
  | addText _ document text _ inductionHypothesis =>
      exact inductionHypothesis.addText document text
  | merge _ _ _ inductionHypothesis otherHypothesis =>
      exact inductionHypothesis.merge otherHypothesis
  | restored _ _ _ read => exact (Index.isValid_iff _).mp (isValid_of_decode read).1

theorem isNarrow (obtained : Obtained index) : index.IsNarrow := by
  cases obtained with
  | empty =>
      intro document cursor known
      rw [Index.cursor?_empty] at known
      cases known
  | loaded read => exact (isValid_of_decode read).2
  | addText _ _ _ narrow => exact narrow
  | merge _ _ narrow => exact narrow
  | restored _ _ _ read => exact (isValid_of_decode read).2

/-- A sound index is loaded from its own JSON document. -/
theorem of_sound (sound : index.Sound) (narrow : index.IsNarrow) : Obtained index := by
  have lists := lists_listing index
  have detected : detect (file .json (listing index)) = .ok .json := detect_document _
  exact .loaded (decode_eq_ok detected (listing?_file_json sound narrow lists) lists
    ((Index.isValid_iff index).mpr sound))

end Obtained

/-- An index is obtained exactly if it is valid and its cursors fit into four bytes: every
document of a posting belongs to it, and the positions of a word in a document are a
non-empty list that ascends strictly from one to the cursor. -/
theorem obtained_iff (index : Index) :
    Obtained index ↔ index.isValid = true ∧ index.Sound ∧ index.IsNarrow := by
  constructor
  · intro obtained
    exact ⟨(Index.isValid_iff index).mpr obtained.sound, obtained.sound, obtained.isNarrow⟩
  · rintro ⟨_, sound, narrow⟩
    exact .of_sound sound narrow

/-- A file may leave gaps between positions and behind the last one, which a merge keeps. -/
example : ((decode (file .json ⟨[("fish", [("a", [2, 4])])], [("a", 7)]⟩)).toOption.map
    fun index => (index.merge index).positions? "fish" "a") = some (some [2, 4, 9, 11]) := by
  decide +kernel

end Concordance.Storage
