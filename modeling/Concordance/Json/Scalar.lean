import Concordance.Json.Numeral
import Concordance.Json.Quotation

/-!
Contract: JSON values without parts, and passing over values of any kind.

Owns:
- `scalar`, which reads a name, a number or a string and keeps nothing of it;
- `kindFault`, the fault of a value of another kind than expected;
- `skipped`, which passes over one value, nested ones included.

Does not own: lists and objects that are kept (`Concordance.Json.Composite`).
-/

set_option autoImplicit false

namespace Concordance.Json

/-- How closely a value is looked at: a checked one must have a meaning, a loose one
just an end. -/
inductive Care where
  | checked
  | loose
deriving DecidableEq, Repr

/-- Reads a number and forgets it. -/
def forgottenNumeral : Care → Reader Unit
  | .checked =>
      (numeral .unfinished).refine fun numeral =>
        if numeral.inRange then .ok () else .error .malformed
  | .loose => (numeral .malformed).map fun _ => ()

/-- Reads a string after its opening quote and forgets it. -/
def forgottenQuotation : Care → Reader Unit
  | .checked => quotation.map fun _ => ()
  | .loose => looseQuotation

/-- Reads a value without parts and forgets it. -/
def scalar (care : Care) : Reader Unit
  | [] => .error .unfinished
  | first :: rest =>
      if first = 0x6E then Reader.exactWord 0x6E [0x75, 0x6C, 0x6C] (first :: rest)
      else if first = 0x74 then
        Reader.exactWord 0x74 [0x72, 0x75, 0x65] (first :: rest)
      else if first = 0x66 then
        Reader.exactWord 0x66 [0x61, 0x6C, 0x73, 0x65] (first :: rest)
      else if first = 0x22 then
        match forgottenQuotation care rest with
        | .error fault => .error fault
        | .ok taken => .ok (taken.behind first)
      else if first = 0x2D || isDigit first then forgottenNumeral care (first :: rest)
      else .error .malformed

/-- The fault of a value that is not of the expected kind. A list or an object is
not looked into. -/
def kindFault (bytes : Bytes) : Fault :=
  if bytes.head? = some 0x5B || bytes.head? = some 0x7B then .mismatched
  else
    match scalar .checked bytes with
    | .error fault => fault
    | .ok _ => .mismatched

/-! ## Values that are passed over -/

/-- The lists and objects that are open around a value, innermost first. -/
inductive Frame where
  | list
  | object
deriving DecidableEq, Repr

/-- The byte that closes a frame. -/
def Frame.closing : Frame → UInt8
  | list => 0x5D
  | object => 0x7D

/-- Where a pass over a value stands: before a value, behind an opening bracket, or
behind a value. -/
inductive Place where
  | before
  | inside
  | behind
deriving DecidableEq, Repr

/-- Reads the name and the colon before a value of an object. -/
def looseName : Reader Unit :=
  (Reader.exactly 0x22).afterBlanks.andThen fun _ =>
    looseQuotation.andThen fun _ => (Reader.exactly 0x3A).afterBlanks

/-- Result of a step: what is left when the value is over, or where the pass goes
on. -/
inductive Step where
  | finished (rest : Bytes)
  | next (place : Place) (frames : List Frame) (rest : Bytes)

/-- Goes to the next element of the innermost frame. -/
def Frame.enter (frame : Frame) (outer : List Frame) (bytes : Bytes) :
    Except Fault Step :=
  match frame with
  | list => .ok (.next .before (list :: outer) bytes)
  | object =>
      match looseName bytes with
      | .error fault => .error fault
      | .ok taken => .ok (.next .before (object :: outer) taken.rest)

/-- One step of a pass. -/
def step (place : Place) (frames : List Frame) (bytes : Bytes) : Except Fault Step :=
  match place, frames with
  | .before, frames =>
      match dropBlanks bytes with
      | [] => .error .unfinished
      | first :: rest =>
          if first = 0x5B then .ok (.next .inside (.list :: frames) rest)
          else if first = 0x7B then .ok (.next .inside (.object :: frames) rest)
          else
            match scalar .loose (first :: rest) with
            | .error fault => .error fault
            | .ok taken => .ok (.next .behind frames taken.rest)
  | _, [] => .ok (.finished bytes)
  | place, frame :: outer =>
      match dropBlanks bytes with
      | [] => .error .unfinished
      | first :: rest =>
          if first = frame.closing then .ok (.next .behind outer rest)
          else if place = .inside then frame.enter outer (first :: rest)
          else if first = 0x2C then frame.enter outer rest
          else .error .malformed

/-- How far a pass is from its end: the bytes left, and, among steps that take none,
the place. -/
def Place.distance (place : Place) (bytes : Bytes) : Nat :=
  2 * bytes.length + if place = .inside then 1 else 0

theorem Frame.enter_next {frame : Frame} {outer frames : List Frame} {place : Place}
    {bytes rest : Bytes} (entered : frame.enter outer bytes = .ok (.next place frames rest)) :
    place = .before ∧ rest.length ≤ bytes.length := by
  cases frame with
  | list => cases entered; exact ⟨rfl, Nat.le_refl _⟩
  | object =>
      simp only [Frame.enter] at entered
      split at entered
      · cases entered
      · rename_i taken _
        cases entered
        exact ⟨rfl, Nat.le_of_lt taken.shorter⟩

theorem Frame.enter_ne_finished (frame : Frame) (outer : List Frame) (bytes rest : Bytes) :
    frame.enter outer bytes ≠ .ok (.finished rest) := by
  intro entered
  cases frame with
  | list => cases entered
  | object =>
      simp only [Frame.enter] at entered
      split at entered <;> cases entered

/-- A step that goes on takes a byte, unless it goes from an opening bracket to the
first element of a list. -/
theorem length_of_step {place next : Place} {frames more : List Frame}
    {bytes rest : Bytes} (stepped : step place frames bytes = .ok (.next next more rest)) :
    rest.length < bytes.length
      ∨ place = .inside ∧ next = .before ∧ rest.length ≤ bytes.length := by
  have blanks := length_dropBlanks_le bytes
  unfold step at stepped
  split at stepped
  · split at stepped
    · cases stepped
    · rename_i first following split
      rw [split, List.length_cons] at blanks
      split at stepped
      · cases stepped; exact .inl (by omega)
      · split at stepped
        · cases stepped; exact .inl (by omega)
        · split at stepped
          · cases stepped
          · rename_i taken _
            have shorter := taken.shorter
            rw [List.length_cons] at shorter
            cases stepped; exact .inl (by omega)
  · cases stepped
  · split at stepped
    · cases stepped
    · rename_i first following split
      rw [split, List.length_cons] at blanks
      split at stepped
      · cases stepped; exact .inl (by omega)
      · split at stepped
        · rename_i isInside
          have entered := Frame.enter_next stepped
          rw [List.length_cons] at entered
          exact .inr ⟨isInside, entered.1, by omega⟩
        · split at stepped
          · have entered := Frame.enter_next stepped
            exact .inl (by omega)
          · cases stepped

/-- A step that goes on comes closer to the end. -/
theorem distance_lt_of_step {place next : Place} {frames more : List Frame}
    {bytes rest : Bytes} (stepped : step place frames bytes = .ok (.next next more rest)) :
    next.distance rest < place.distance bytes := by
  rcases length_of_step stepped with shorter | ⟨rfl, rfl, bound⟩
  · simp only [Place.distance]
    split <;> omega
  · simp [Place.distance]; omega

/-- A pass is over only behind a value. -/
theorem step_finished {place : Place} {frames : List Frame} {bytes rest : Bytes}
    (stepped : step place frames bytes = .ok (.finished rest)) :
    place ≠ .before ∧ rest = bytes := by
  unfold step at stepped
  split at stepped
  · split at stepped
    · cases stepped
    · split at stepped
      · cases stepped
      · split at stepped
        · cases stepped
        · split at stepped <;> cases stepped
  · rename_i notBefore
    cases stepped
    exact ⟨notBefore, rfl⟩
  · split at stepped
    · cases stepped
    · split at stepped
      · cases stepped
      · split at stepped
        · exact absurd stepped (Frame.enter_ne_finished _ _ _ _)
        · split at stepped
          · exact absurd stepped (Frame.enter_ne_finished _ _ _ _)
          · cases stepped

/-- Passes on until the value is over. -/
def pass (place : Place) (frames : List Frame) (bytes : Bytes) : Except Fault Bytes :=
  match _result : step place frames bytes with
  | .error fault => .error fault
  | .ok (.finished rest) => .ok rest
  | .ok (.next next more rest) => pass next more rest
termination_by place.distance bytes
decreasing_by exact distance_lt_of_step _result

/-- A pass over a value takes at least one byte. -/
theorem length_of_pass {place : Place} {frames : List Frame} {bytes rest : Bytes}
    (passed : pass place frames bytes = .ok rest) :
    rest.length ≤ bytes.length ∧ (place = .before → rest.length < bytes.length) := by
  fun_induction pass place frames bytes with
  | case1 => cases passed
  | case2 place frames bytes last result =>
      cases passed
      have finished := step_finished result
      rw [finished.2]
      exact ⟨Nat.le_refl _, fun isBefore => absurd isBefore finished.1⟩
  | case3 place frames bytes next more remaining result inductionHypothesis =>
      have later := inductionHypothesis passed
      rcases length_of_step result with shorter | ⟨rfl, _, bound⟩
      · exact ⟨by omega, fun _ => by omega⟩
      · exact ⟨by omega, nofun⟩

/-- Passes over one value, whatever it is. -/
def skipped : Reader Unit := fun bytes =>
  match passed : pass .before [] bytes with
  | .error fault => .error fault
  | .ok rest => .ok ⟨(), rest, (length_of_pass passed).2 rfl⟩

end Concordance.Json
