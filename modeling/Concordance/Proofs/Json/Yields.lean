import Concordance.Json.Composite

/-!
Contract: what can be said of all values that a reader takes.

Readers are made of others by combinators, and so are the properties of what they take:
each combinator has one rule. Objects whose names have meanings are read into a state,
and an invariant that every member keeps holds at their end.

Owns: `Yields` and its rules.

Does not own: which bytes are taken (`Concordance.Proofs.Json.Taking`).
-/

set_option autoImplicit false

namespace Concordance.Json

variable {α β σ : Type}

namespace Reader

/-- Every value that a reader takes has a property. -/
def Yields (reader : Reader α) (property : α → Prop) : Prop :=
  ∀ bytes taken, reader bytes = .ok taken → property taken.value

namespace Yields

variable {reader : Reader α} {property : α → Prop} {other : β → Prop}

/-- Every reader takes some value. -/
theorem trivial (reader : Reader α) : reader.Yields fun _ => True := fun _ _ _ => True.intro

theorem refuse (fault : Fault) (property : α → Prop) : (Reader.refuse fault).Yields property :=
  fun _ _ read => by cases read

theorem refine (yields : reader.Yields property) (other : β → Prop)
    {change : α → Except Fault β}
    (keeps : ∀ value changed, property value → change value = .ok changed → other changed) :
    (reader.refine change).Yields other := by
  intro bytes taken read
  unfold Reader.refine at read
  split at read
  · cases read
  · rename_i first found
    split at read
    · cases read
    · rename_i value changed
      cases read
      exact keeps _ _ (yields _ _ found) changed

theorem map (yields : reader.Yields property) {change : α → β}
    (keeps : ∀ value, property value → other (change value)) :
    (reader.map change).Yields other := by
  refine yields.refine other fun value changed holds same => ?_
  cases same
  exact keeps value holds

theorem andThen (yields : reader.Yields property) {next : α → Reader β}
    (keeps : ∀ value, property value → (next value).Yields other) :
    (reader.andThen next).Yields other := by
  intro bytes taken read
  unfold Reader.andThen at read
  split at read
  · cases read
  · rename_i first found
    split at read
    · cases read
    · rename_i last foundNext
      cases read
      have holds : other last.value := keeps _ (yields _ _ found) _ _ foundNext
      exact holds

theorem afterBlanks (yields : reader.Yields property) : reader.afterBlanks.Yields property := by
  intro bytes taken read
  unfold Reader.afterBlanks at read
  split at read
  · cases read
  · rename_i first found
    cases read
    have holds : property first.value := yields _ _ found
    exact holds

theorem opened (yields : reader.Yields property) (opening : UInt8) :
    (Reader.opened opening reader).Yields property := by
  refine afterBlanks fun bytes taken read => ?_
  split at read
  · cases read
  · split at read
    · split at read
      · cases read
      · rename_i inner found
        cases read
        have holds : property inner.value := yields _ _ found
        exact holds
    · cases read

theorem assigned (yields : reader.Yields property) : (Reader.assigned reader).Yields property :=
  (trivial _).andThen fun _ _ => yields

theorem natural (bound : Nat) : (Reader.natural bound).Yields (· < bound) := by
  refine afterBlanks fun bytes taken read => ?_
  split at read
  · cases read
  · split at read
    · refine (trivial (numeral .unfinished)).refine (· < bound)
        (fun numeral value _ accepted => ?_) _ _ read
      split at accepted
      · cases accepted
      · split at accepted
        · split at accepted
          · cases accepted
            assumption
          · cases accepted
        · cases accepted
    · cases read

end Yields

/-- What every member keeps of the state holds at the end of an object. The induction is
on the members that are read. -/
theorem yields_members {member : σ → Text → Reader σ} {invariant : σ → Prop}
    (keeps : ∀ state name, invariant state → (member state name).Yields invariant)
    (first : Bool) {state : σ} (holds : invariant state) :
    Yields (members member state first) invariant := by
  intro bytes taken read
  fun_induction members member state first bytes with
  | case1 | case3 | case4 | case5 => cases read
  | case2 state first bytes rest shorter closed =>
      cases read
      exact holds
  | case6 state first bytes rest bound part name named more given others found
      inductionHypothesis =>
      cases read
      exact inductionHypothesis (keeps _ _ holds _ _ given) _ found

theorem yields_record {member : σ → Text → Reader σ} {invariant : σ → Prop}
    (keeps : ∀ state name, invariant state → (member state name).Yields invariant) {initial : σ}
    (holds : invariant initial) : (record member initial).Yields invariant :=
  Yields.opened (yields_members keeps true holds) 0x7B

theorem yields_table {value : Reader α} {property : α → Prop}
    (yields : value.Yields property) :
    (table value).Yields fun entries => ∀ entry ∈ entries, property entry.2 := by
  have entries : (record (fun entries name =>
      (assigned value).map fun item => (name, item) :: entries) []).Yields
        fun entries => ∀ entry ∈ entries, property entry.2 := by
    refine yields_record (fun entries name holds => ?_) (fun _ member => by cases member)
    refine yields.assigned.map fun item itemHolds => ?_
    rw [List.forall_mem_cons]
    exact ⟨itemHolds, holds⟩
  refine entries.map fun entries holds entry member => ?_
  exact holds entry (List.mem_reverse.mp member)

end Reader

end Concordance.Json
