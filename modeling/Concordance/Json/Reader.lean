import Concordance.Text.Basic

/-!
Contract: readers that take JSON off the front of a byte string.

Every reader takes at least one byte, and the proof travels with the result, so
that reading what follows is a recursion on shorter bytes.

Owns:
- the faults of bytes that are not the expected JSON;
- the type of readers, their composition, blanks and single marks.

Does not own: any value of JSON.
-/

set_option autoImplicit false

namespace Concordance.Json

/-- Why bytes are refused: nothing of this form is JSON, it is JSON of another
kind than expected, or it ends too early. -/
inductive Fault where
  | malformed
  | mismatched
  | unfinished
deriving DecidableEq, Repr

/-- A value taken off the front of `bytes`, with the bytes after it. -/
structure Taken (bytes : Bytes) (α : Type) where
  value : α
  rest : Bytes
  shorter : rest.length < bytes.length

namespace Taken

variable {α β : Type} {bytes : Bytes}

/-- A value that the first byte alone makes up. -/
def one (first : UInt8) (rest : Bytes) (value : α) : Taken (first :: rest) α :=
  ⟨value, rest, Nat.lt_succ_self _⟩

def map (change : α → β) (taken : Taken bytes α) : Taken bytes β :=
  ⟨change taken.value, taken.rest, taken.shorter⟩

/-- The same value, seen from bytes that are at least as long. -/
def within {longer : Bytes} (taken : Taken bytes α)
    (bound : bytes.length ≤ longer.length) : Taken longer α :=
  ⟨taken.value, taken.rest, Nat.lt_of_lt_of_le taken.shorter bound⟩

/-- The same value, seen from bytes with one more in front. -/
def behind (first : UInt8) (taken : Taken bytes α) : Taken (first :: bytes) α :=
  ⟨taken.value, taken.rest, Nat.lt_succ_of_lt taken.shorter⟩

end Taken

/-- A reader of values. -/
abbrev Reader (α : Type) := (bytes : Bytes) → Except Fault (Taken bytes α)

/-- Blanks may stand before and after every value and mark. -/
def isBlank (byte : UInt8) : Bool :=
  byte = 0x20 || byte = 0x09 || byte = 0x0A || byte = 0x0D

/-- The bytes from the first one on that is no blank. -/
def dropBlanks (bytes : Bytes) : Bytes := bytes.dropWhile isBlank

theorem length_dropBlanks_le (bytes : Bytes) :
    (dropBlanks bytes).length ≤ bytes.length :=
  (List.dropWhile_sublist isBlank).length_le

namespace Reader

variable {α β : Type}

/-- Changes what a reader takes, or refuses it. -/
def refine (reader : Reader α) (change : α → Except Fault β) : Reader β := fun bytes =>
  match reader bytes with
  | .error fault => .error fault
  | .ok taken =>
      match change taken.value with
      | .error fault => .error fault
      | .ok value => .ok ⟨value, taken.rest, taken.shorter⟩

def map (reader : Reader α) (change : α → β) : Reader β :=
  reader.refine fun value => .ok (change value)

/-- Reads two things one after another. -/
def andThen (first : Reader α) (second : α → Reader β) : Reader β := fun bytes =>
  match first bytes with
  | .error fault => .error fault
  | .ok taken =>
      match second taken.value taken.rest with
      | .error fault => .error fault
      | .ok last => .ok (last.within (Nat.le_of_lt taken.shorter))

/-- Reads an optional part, which is there if the next byte introduces it. -/
def optionally (reader : Reader α) (introduces : UInt8 → Bool) (part : Reader β) :
    Reader (α × Option β) := fun bytes =>
  match reader bytes with
  | .error fault => .error fault
  | .ok taken =>
      match after : taken.rest with
      | [] => .ok (taken.map (·, none))
      | next :: rest =>
          if introduces next then
            match part rest with
            | .error fault => .error fault
            | .ok more =>
                .ok ⟨(taken.value, some more.value), more.rest, by
                  have first := taken.shorter
                  have second := more.shorter
                  rw [after, List.length_cons] at first
                  omega⟩
          else .ok (taken.map (·, none))

/-- Passes over blanks first. -/
def afterBlanks (reader : Reader α) : Reader α := fun bytes =>
  match reader (dropBlanks bytes) with
  | .error fault => .error fault
  | .ok taken => .ok (taken.within (length_dropBlanks_le bytes))

/-- Refuses everything. -/
def refuse (fault : Fault) : Reader α := fun _ => .error fault

/-- Takes one byte, which must be `expected`. -/
def exactly (expected : UInt8) : Reader Unit
  | [] => .error .unfinished
  | first :: rest =>
      if first = expected then .ok (.one first rest ())
      else .error .malformed

/-- Takes the bytes `first` and `others` in a row. -/
def exactWord (first : UInt8) : Bytes → Reader Unit
  | [] => exactly first
  | second :: others => (exactly first).andThen fun _ => exactWord second others

end Reader

end Concordance.Json
