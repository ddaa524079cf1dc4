import Concordance.Json.Composite

/-!
Contract: what readers take off the front of bytes.

A reader returns a proof together with its value, so that its result is a different type
for every byte string. Here this proof is left out: `Takes` says which value a reader
takes from which bytes and what it leaves.

Owns:
- `Takes`, and what the combinators of readers take;
- `Recovers`, for a reader that takes a value from its written form.

Does not own: readers of strings, numbers, lists and objects.
-/

set_option autoImplicit false

namespace Concordance.Json

variable {α β : Type}

theorem dropBlanks_cons {first : UInt8} (solid : isBlank first = false) (rest : Bytes) :
    dropBlanks (first :: rest) = first :: rest :=
  List.dropWhile_cons_of_neg (by rw [solid]; decide)

namespace Reader

/-- A reader takes a value off the front of some bytes and leaves the rest. -/
def Takes (reader : Reader α) (bytes : Bytes) (value : α) (rest : Bytes) : Prop :=
  ∃ shorter, reader bytes = .ok ⟨value, rest, shorter⟩

theorem takes_one (first : UInt8) (rest : Bytes) {reader : Reader α} {value : α}
    (read : reader (first :: rest) = .ok (.one first rest value)) :
    reader.Takes (first :: rest) value rest :=
  ⟨Nat.lt_succ_self _, read⟩

namespace Takes

variable {reader : Reader α} {bytes rest : Bytes} {value : α}

theorem congr {other : Reader α} (same : other bytes = reader bytes)
    (taken : reader.Takes bytes value rest) : other.Takes bytes value rest := by
  obtain ⟨shorter, read⟩ := taken
  exact ⟨shorter, same.trans read⟩

theorem refine (taken : reader.Takes bytes value rest) {change : α → Except Fault β}
    {other : β} (changed : change value = .ok other) :
    (reader.refine change).Takes bytes other rest := by
  obtain ⟨shorter, read⟩ := taken
  refine ⟨shorter, ?_⟩
  unfold Reader.refine
  simp only [read, changed]

theorem map (taken : reader.Takes bytes value rest) (change : α → β) :
    (reader.map change).Takes bytes (change value) rest :=
  taken.refine rfl

theorem andThen (first : reader.Takes bytes value rest) {next : α → Reader β} {last : β}
    {behind : Bytes} (second : (next value).Takes rest last behind) :
    (reader.andThen next).Takes bytes last behind := by
  obtain ⟨shorter, read⟩ := first
  obtain ⟨later, readNext⟩ := second
  refine ⟨Nat.lt_trans later shorter, ?_⟩
  unfold Reader.andThen
  simp only [read, readNext]
  rfl

/-- An optional part is left out where nothing introduces it. -/
theorem optionally (taken : reader.Takes bytes value rest) {introduces : UInt8 → Bool}
    {part : Reader β} (ends : ∀ next ∈ rest.head?, introduces next = false) :
    (reader.optionally introduces part).Takes bytes (value, none) rest := by
  obtain ⟨shorter, read⟩ := taken
  refine ⟨shorter, ?_⟩
  unfold Reader.optionally
  simp only [read]
  cases rest with
  | nil => rfl
  | cons next behind =>
      simp only [ends next rfl]
      rfl

theorem afterBlanks (taken : reader.Takes (dropBlanks bytes) value rest) :
    reader.afterBlanks.Takes bytes value rest := by
  obtain ⟨shorter, read⟩ := taken
  refine ⟨Nat.lt_of_lt_of_le shorter (length_dropBlanks_le bytes), ?_⟩
  unfold Reader.afterBlanks
  simp only [read]
  rfl

/-- Nothing is passed over where no blank stands. -/
theorem afterNoBlanks {first : UInt8} (taken : reader.Takes (first :: bytes) value rest)
    (solid : isBlank first = false) :
    reader.afterBlanks.Takes (first :: bytes) value rest :=
  afterBlanks ((dropBlanks_cons solid bytes).symm ▸ taken)

end Takes

theorem takes_exactly (expected : UInt8) (rest : Bytes) :
    (exactly expected).Takes (expected :: rest) () rest :=
  takes_one expected rest (if_pos rfl)

theorem takes_opened {opening : UInt8} (solid : isBlank opening = false) {body : Reader α}
    {bytes rest : Bytes} {value : α} (taken : body.Takes bytes value rest) :
    (opened opening body).Takes (opening :: bytes) value rest := by
  refine Takes.afterNoBlanks ?_ solid
  obtain ⟨shorter, read⟩ := taken
  refine ⟨Nat.lt_succ_of_lt shorter, ?_⟩
  simp only [if_true, read]
  rfl

theorem takes_assigned {reader : Reader α} {bytes rest : Bytes} {value : α}
    (taken : reader.Takes bytes value rest) :
    (assigned reader).Takes (0x3A :: bytes) value rest :=
  ((takes_exactly 0x3A bytes).afterNoBlanks (by decide)).andThen taken

/-- What may stand behind a value: nothing, or a mark that separates or closes. -/
def Delimited (rest : Bytes) : Prop :=
  ∀ next ∈ rest.head?, next = 0x2C ∨ next = 0x5D ∨ next = 0x7D

/-- Values may begin with all but blanks and closing marks. -/
def Begins (bytes : Bytes) : Prop :=
  ∃ first others, bytes = first :: others ∧ isBlank first = false ∧ first ≠ 0x5D ∧
    first ≠ 0x7D

/-- A reader takes a value from its written form wherever that may stand. -/
structure Recovers (reader : Reader α) (value : α) (bytes : Bytes) : Prop where
  begins : Begins bytes
  takes : ∀ rest, Delimited rest → reader.Takes (bytes ++ rest) value rest

theorem delimited_nil : Delimited [] := fun _ member => by cases member

theorem delimited_cons {mark : UInt8} (isMark : mark = 0x2C ∨ mark = 0x5D ∨ mark = 0x7D)
    (rest : Bytes) : Delimited (mark :: rest) := fun _ member => by
  cases member
  exact isMark

end Reader

end Concordance.Json
