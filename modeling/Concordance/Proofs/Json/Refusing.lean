import Concordance.Proofs.Json.Taking

/-!
Contract: where readers stop.

The first fault that a reader meets is its fault as a whole, whatever would have followed.
So each combinator passes on the faults of its parts, behind everything that was taken
before.

Owns:
- the faults of composed readers;
- the faults of borders, lists and objects.

Does not own: the faults of whole documents.
-/

set_option autoImplicit false

namespace Concordance.Json

variable {α β σ : Type}

namespace Reader

variable {reader : Reader α} {bytes : Bytes} {fault : Fault}

theorem refine_error (refused : reader bytes = .error fault) (change : α → Except Fault β) :
    reader.refine change bytes = .error fault := by
  simp only [Reader.refine, refused]

theorem map_error (refused : reader bytes = .error fault) (change : α → β) :
    reader.map change bytes = .error fault :=
  refine_error refused _

theorem andThen_error (refused : reader bytes = .error fault) (next : α → Reader β) :
    reader.andThen next bytes = .error fault := by
  simp only [Reader.andThen, refused]

theorem Takes.andThen_error {value : α} {rest : Bytes} (taken : reader.Takes bytes value rest)
    {next : α → Reader β} (refused : next value rest = .error fault) :
    reader.andThen next bytes = .error fault := by
  obtain ⟨shorter, read⟩ := taken
  simp only [Reader.andThen, read, refused]

theorem afterBlanks_error (refused : reader (dropBlanks bytes) = .error fault) :
    reader.afterBlanks bytes = .error fault := by
  simp only [Reader.afterBlanks, refused]

theorem afterNoBlanks_error {first : UInt8} (refused : reader (first :: bytes) = .error fault)
    (solid : isBlank first = false) : reader.afterBlanks (first :: bytes) = .error fault :=
  afterBlanks_error (by rw [dropBlanks_cons solid, refused])

theorem opened_nil (opening : UInt8) (body : Reader α) :
    opened opening body [] = .error .unfinished := rfl

theorem opened_error {opening : UInt8} (solid : isBlank opening = false)
    (refused : reader bytes = .error fault) :
    opened opening reader (opening :: bytes) = .error fault := by
  refine afterNoBlanks_error ?_ solid
  simp only [if_true, refused]

theorem assigned_nil (value : Reader α) : assigned value [] = .error .unfinished := rfl

theorem assigned_error (refused : reader bytes = .error fault) :
    assigned reader (0x3A :: bytes) = .error fault :=
  ((takes_exactly 0x3A bytes).afterNoBlanks (by decide)).andThen_error refused

end Reader

/-! ## Lists and objects -/

theorem border_nil (closing : UInt8) (isFirst : Bool) :
    border closing isFirst [] = .error .unfinished := rfl

/-- Behind a comma something has to stand. -/
theorem border_comma {closing : UInt8} (notComma : closing ≠ 0x2C) :
    border closing false [0x2C] = .error .unfinished := by
  have comma : isBlank 0x2C = false := by decide
  unfold border
  split
  · rfl
  · rename_i start
    cases (dropBlanks_cons comma []).symm.trans start
    exact (if_neg notComma.symm).trans ((if_neg (by decide)).trans (if_pos rfl))

section Parts

variable {bytes front behind : Bytes} {isFirst : Bool} {fault : Fault}

theorem elements_border_error {element : Reader α}
    (refused : border 0x5D isFirst bytes = .error fault) :
    elements element isFirst bytes = .error fault := by
  rw [elements]
  simp only [refused]

theorem elements_element_error {element : Reader α}
    (part : ∃ bound, border 0x5D isFirst bytes = .ok (.part front bound))
    (refused : element front = .error fault) :
    elements element isFirst bytes = .error fault := by
  obtain ⟨bound, border⟩ := part
  rw [elements]
  simp only [border, refused]

theorem elements_others_error {element : Reader α} {item : α}
    (part : ∃ bound, border 0x5D isFirst bytes = .ok (.part front bound))
    (taken : element.Takes front item behind)
    (refused : elements element false behind = .error fault) :
    elements element isFirst bytes = .error fault := by
  obtain ⟨bound, border⟩ := part
  obtain ⟨shorter, read⟩ := taken
  rw [elements]
  simp only [border, read, refused]

variable {reader : σ → Text → Reader σ} {state next : σ} {name : Text} {middle : Bytes}

theorem members_border_error (refused : border 0x7D isFirst bytes = .error fault) :
    members reader state isFirst bytes = .error fault := by
  rw [members]
  simp only [refused]

theorem members_name_error
    (part : ∃ bound, border 0x7D isFirst bytes = .ok (.part front bound))
    (refused : memberName front = .error fault) :
    members reader state isFirst bytes = .error fault := by
  obtain ⟨bound, border⟩ := part
  rw [members]
  simp only [border, refused]

theorem members_member_error
    (part : ∃ bound, border 0x7D isFirst bytes = .ok (.part front bound))
    (named : memberName.Takes front name middle)
    (refused : reader state name middle = .error fault) :
    members reader state isFirst bytes = .error fault := by
  obtain ⟨bound, border⟩ := part
  obtain ⟨less, readName⟩ := named
  rw [members]
  simp only [border, readName, refused]

theorem members_others_error
    (part : ∃ bound, border 0x7D isFirst bytes = .ok (.part front bound))
    (named : memberName.Takes front name middle)
    (taken : (reader state name).Takes middle next behind)
    (refused : members reader next false behind = .error fault) :
    members reader state isFirst bytes = .error fault := by
  obtain ⟨bound, border⟩ := part
  obtain ⟨less, readName⟩ := named
  obtain ⟨shorter, read⟩ := taken
  rw [members]
  simp only [border, readName, read, refused]

end Parts

end Concordance.Json
