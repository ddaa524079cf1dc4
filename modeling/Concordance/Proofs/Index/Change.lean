import Concordance.Proofs.Index.Adding

/-!
Contract: an index that goes on being changed.

Every change folds an index into the one that is there, be it that of a single text or any
other. So one fact about merges is enough for each property below, and what a change keeps is
kept by any number of changes.

Owns:
- changes and what they bring, and the index after a list of changes;
- that valid changes keep an index sound;
- growth: no document gets lost, and positions are only put behind those that are there;
- that all that is known of a document stays the same while nothing is brought for it.

Does not own: the answers to queries (`Concordance.Proofs.Query.Lasting`).
-/

set_option autoImplicit false

namespace Concordance.Index

/-! ## Changes -/

/-- One change of an index: a text is added to a document, or another index is folded in. -/
inductive Change where
  | addText (document text : Text)
  | merge (other : Index)
deriving DecidableEq

namespace Change

/-- The index after a change. -/
def apply (index : Index) : Change → Index
  | addText document text => (index.addText document text).1
  | merge other => index.merge other

/-- Whether an index that is folded in is valid. Any text will do. -/
def IsValid : Change → Prop
  | addText _ _ => True
  | merge other => other.isValid = true

instance : (change : Change) → Decidable change.IsValid
  | addText _ _ => isTrue trivial
  | merge other => inferInstanceAs (Decidable (other.isValid = true))

/-- Whether a change brings a document, with or without words. -/
def Touches (document : Text) : Change → Prop
  | addText target _ => target = document
  | merge other => document ∈ other.allDocuments

instance (document : Text) : (change : Change) → Decidable (change.Touches document)
  | addText target _ => inferInstanceAs (Decidable (target = document))
  | merge other => inferInstanceAs (Decidable (document ∈ other.allDocuments))

/-- The index that a change folds in. -/
def brought : Change → Index
  | addText document text => ofTexts [(document, text)]
  | merge other => other

theorem apply_eq_merge (index : Index) (change : Change) :
    change.apply index = index.merge change.brought := by
  cases change with
  | addText document text => exact addText_eq_merge index document text
  | merge other => rfl

theorem IsValid.sound_brought {change : Change} (valid : change.IsValid) :
    change.brought.Sound := by
  cases change with
  | addText document text => exact sound_ofTexts _
  | merge other => exact (isValid_iff other).mp valid

theorem touches_iff (change : Change) (document : Text) :
    change.Touches document ↔ document ∈ change.brought.allDocuments := by
  cases change with
  | addText target text =>
      rw [brought, mem_allDocuments, (Represents.ofTexts _).cursor, Option.isSome_map,
        Corpus.isSome_ofTexts_iff, List.map_singleton, List.mem_singleton]
      exact eq_comm
  | merge other => rfl

end Change

/-- The index after changes, one after the other. -/
def after (index : Index) (changes : List Change) : Index := changes.foldl Change.apply index

variable {index later : Index} {changes : List Change}

/-- What each change keeps is kept by all of them. -/
theorem after_induction {motive : Index → Prop} (start : motive index)
    (step : ∀ grown, motive grown → ∀ change ∈ changes,
      motive (grown.merge change.brought)) : motive (index.after changes) := by
  refine List.foldlRecOn changes Change.apply start fun grown kept change member => ?_
  rw [Change.apply_eq_merge]
  exact step grown kept change member

theorem Sound.after (sound : index.Sound) (valid : ∀ change ∈ changes, change.IsValid) :
    (index.after changes).Sound :=
  after_induction sound fun _ sound change member =>
    sound.merge (valid change member).sound_brought

/-! ## Growth -/

/-- No document gets lost, and the positions of a word in a document are followed by others,
if anything. -/
structure Grows (index later : Index) : Prop where
  documents : ∀ document ∈ index.allDocuments, document ∈ later.allDocuments
  positions : ∀ word document, (index.positions? word document).getD []
    <+: (later.positions? word document).getD []

namespace Grows

theorem refl (index : Index) : index.Grows index :=
  ⟨fun _ known => known, fun _ _ => List.prefix_rfl⟩

theorem trans {middle : Index} (first : index.Grows middle) (second : middle.Grows later) :
    index.Grows later :=
  ⟨fun document known => second.documents document (first.documents document known),
    fun word document => (first.positions word document).trans (second.positions word document)⟩

theorem merge (index other : Index) : index.Grows (index.merge other) where
  documents document known := (mem_allDocuments_merge index other document).mpr (.inl known)
  positions word document := by
    rw [positions?_merge]
    cases other.positions? word document with
    | none => exact List.prefix_rfl
    | some positions => exact List.prefix_append _ _

theorem after (index : Index) (changes : List Change) : index.Grows (index.after changes) :=
  after_induction (refl index) fun grown kept change _ => kept.trans (merge grown change.brought)

/-- Words stay where they stand. -/
theorem standsAt (grows : index.Grows later) {word document : Text} {position : Nat}
    (stands : index.StandsAt word document position) : later.StandsAt word document position :=
  (grows.positions word document).mem stands

end Grows

/-- The second side of a merge comes behind the words that the first side has. -/
theorem StandsAt.merge_right (index : Index) {other : Index} {word document : Text}
    {position : Nat} (known : document ∈ other.allDocuments)
    (stands : other.StandsAt word document position) :
    (index.merge other).StandsAt word document
      (position + (index.cursor? document).getD 0) := by
  rw [mem_allDocuments] at known
  rw [StandsAt] at stands
  rw [StandsAt, positions?_merge, shiftFor_of_isSome index known]
  cases found : other.positions? word document with
  | none =>
      rw [found] at stands
      cases stands
  | some positions =>
      rw [found, Option.getD_some] at stands
      exact List.mem_append_right _ (List.mem_map_of_mem stands)

/-! ## Documents that are left alone -/

/-- A document has as many words as before, each at the same positions. -/
structure Keeps (index later : Index) (document : Text) : Prop where
  cursor : later.cursor? document = index.cursor? document
  positions : later.AgreesOn index document

namespace Keeps

variable {document : Text}

theorem refl (index : Index) (document : Text) : index.Keeps index document :=
  ⟨rfl, fun _ => rfl⟩

theorem merge {other : Index} (others : other.Sound) (index : Index)
    (unknown : document ∉ other.allDocuments) : index.Keeps (index.merge other) document where
  cursor := by rw [cursor?_merge, cursor?_eq_none unknown, Option.elim_none]
  positions := agreesOn_merge_left others unknown

theorem trans {middle : Index} (first : index.Keeps middle document)
    (second : middle.Keeps later document) : index.Keeps later document :=
  ⟨second.cursor.trans first.cursor,
    fun word => (second.positions word).trans (first.positions word)⟩

theorem after (index : Index) (valid : ∀ change ∈ changes, change.IsValid)
    (untouched : ∀ change ∈ changes, ¬change.Touches document) :
    index.Keeps (index.after changes) document := by
  refine after_induction (motive := fun grown => index.Keeps grown document)
    (refl index document) fun grown kept change member => ?_
  have unknown := untouched change member
  rw [change.touches_iff] at unknown
  exact kept.trans (merge (valid change member).sound_brought grown unknown)

theorem mem_allDocuments_iff (keeps : index.Keeps later document) :
    document ∈ later.allDocuments ↔ document ∈ index.allDocuments := by
  rw [mem_allDocuments, mem_allDocuments, keeps.cursor]

end Keeps

end Concordance.Index
