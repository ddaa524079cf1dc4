import Concordance.Json.Scalar

/-!
Contract: reading JSON lists and objects whose parts are kept.

Owns:
- the borders between parts;
- `list`, and `table`, an object whose names are data;
- `members`, the parts of an object whose names have meanings.

Does not own: which names a document has (`Concordance.Storage.Document`).
-/

set_option autoImplicit false

namespace Concordance.Json

variable {α σ : Type}

/-- What stands at a border of a list or an object: its end, or one more part. -/
inductive Border (bytes : Bytes) where
  | closed (rest : Bytes) (shorter : rest.length < bytes.length)
  | part (rest : Bytes) (bound : rest.length ≤ bytes.length)

theorem length_lt_of_dropBlanks {bytes rest : Bytes} {first : UInt8}
    (blanks : dropBlanks bytes = first :: rest) : rest.length < bytes.length := by
  have bound := length_dropBlanks_le bytes
  rw [blanks, List.length_cons] at bound
  exact bound

/-- Reads a border. At the first one, behind the opening bracket, no comma stands. -/
def border (closing : UInt8) (first : Bool) (bytes : Bytes) :
    Except Fault (Border bytes) :=
  match start : dropBlanks bytes with
  | [] => .error .unfinished
  | byte :: rest =>
      have bound := length_lt_of_dropBlanks start
      if byte = closing then .ok (.closed rest bound)
      else if first then .ok (.part (byte :: rest) bound)
      else if byte = 0x2C then
        match behind : dropBlanks rest with
        | [] => .error .unfinished
        | next :: following =>
            if next = closing then .error .malformed
            else
              .ok (.part (next :: following)
                (Nat.le_trans (length_lt_of_dropBlanks behind) (Nat.le_of_lt bound)))
      else .error .malformed

/-- Reads the elements of a list up to its closing bracket. -/
def elements (element : Reader α) (first : Bool) (bytes : Bytes) :
    Except Fault (Taken bytes (List α)) :=
  match border 0x5D first bytes with
  | .error fault => .error fault
  | .ok (.closed rest shorter) => .ok ⟨[], rest, shorter⟩
  | .ok (.part rest bound) =>
      match element rest with
      | .error fault => .error fault
      | .ok item =>
          match elements element false item.rest with
          | .error fault => .error fault
          | .ok others =>
              .ok ⟨item.value :: others.value, others.rest,
                Nat.lt_trans others.shorter (Nat.lt_of_lt_of_le item.shorter bound)⟩
termination_by bytes.length
decreasing_by exact Nat.lt_of_lt_of_le item.shorter bound

/-- Reads the name of a member. -/
def memberName : Reader Text := (Reader.exactly 0x22).andThen fun _ => quotation

/-- Reads the members of an object up to its closing brace. `member` reads what
follows a name. -/
def members (member : σ → Text → Reader σ) (state : σ) (first : Bool) (bytes : Bytes) :
    Except Fault (Taken bytes σ) :=
  match border 0x7D first bytes with
  | .error fault => .error fault
  | .ok (.closed rest shorter) => .ok ⟨state, rest, shorter⟩
  | .ok (.part rest bound) =>
      match memberName rest with
      | .error fault => .error fault
      | .ok name =>
          match member state name.value name.rest with
          | .error fault => .error fault
          | .ok more =>
              match members member more.value false more.rest with
              | .error fault => .error fault
              | .ok others =>
                  .ok ⟨others.value, others.rest,
                    Nat.lt_trans others.shorter
                      (Nat.lt_trans more.shorter
                        (Nat.lt_of_lt_of_le name.shorter bound))⟩
termination_by bytes.length
decreasing_by
  exact Nat.lt_trans more.shorter (Nat.lt_of_lt_of_le name.shorter bound)

namespace Reader

/-- Reads a value that begins with `opening`; `body` reads what follows it. -/
def opened (opening : UInt8) (body : Reader α) : Reader α :=
  afterBlanks fun bytes =>
    match bytes with
    | [] => .error .unfinished
    | first :: rest =>
        if first = opening then
          match body rest with
          | .error fault => .error fault
          | .ok taken => .ok (taken.behind first)
        else .error (kindFault (first :: rest))

/-- Reads the colon behind a name and then a value. -/
def assigned (value : Reader α) : Reader α :=
  (exactly 0x3A).afterBlanks.andThen fun _ => value

/-- Reads a list. -/
def list (element : Reader α) : Reader (List α) := opened 0x5B (elements element true)

/-- Reads an object whose names have meanings. -/
def record (member : σ → Text → Reader σ) (initial : σ) : Reader σ :=
  opened 0x7B (members member initial true)

/-- Reads an object whose names are data, as its entries in order. -/
def table (value : Reader α) : Reader (List (Text × α)) :=
  map
    (record (fun entries name => (assigned value).map fun item => (name, item) :: entries)
      [])
    List.reverse

/-- Reads a natural number below `bound`. -/
def natural (bound : Nat) : Reader Nat :=
  afterBlanks fun bytes =>
    match bytes with
    | [] => .error .unfinished
    | first :: rest =>
        if first = 0x2D || isDigit first then
          (numeral .unfinished).refine
            (fun numeral =>
              if !numeral.inRange then .error .malformed
              else
                match numeral.natural? with
                | some value => if value < bound then .ok value else .error .mismatched
                | none => .error .mismatched)
            (first :: rest)
        else .error (kindFault (first :: rest))

end Reader

/-- Reads a whole document: one value, and nothing but blanks behind it. -/
def document (value : Reader α) (bytes : Bytes) : Except Fault α :=
  match value bytes with
  | .error fault => .error fault
  | .ok taken =>
      if (dropBlanks taken.rest).isEmpty then .ok taken.value else .error .malformed

end Concordance.Json
