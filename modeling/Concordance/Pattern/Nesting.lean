import Concordance.Pattern.Reader

/-!
Contract: how deep patterns may be nested.

Groups, repetitions, choices, sequences, brackets, unions and combined sets are each one
level deeper than what they stand in.

Owns: finding the first part of a pattern that is nested too deep.

Does not own: reading (`Concordance.Pattern.Reader`).
-/

set_option autoImplicit false

namespace Concordance.Pattern

/-- Accepts one level more than `depth`. -/
def deeper (depth : Nat) (span : Span) : Except Problem Unit :=
  if nestingLimit ≤ depth then .error ⟨.tooDeep, span, none⟩ else .ok ()

mutual

/-- Finds the first part of a set that is nested too deep, where the set is `depth`
levels deep itself. -/
def SetTree.checkDepth (depth : Nat) : SetTree → Except Problem Unit
  | .empty _ => .ok ()
  | .literal _ => .ok ()
  | .range _ _ _ => .ok ()
  | .named _ => .ok ()
  | .bracketed span _ inner => do
      deeper depth span
      inner.checkDepth (depth + 1)
  | .union span items => do
      deeper depth span
      SetTree.checkDepths (depth + 1) items
  | .operation span _ left right => do
      deeper depth span
      left.checkDepth (depth + 1)
      right.checkDepth (depth + 1)

/-- Finds the first part of several sets that is nested too deep. -/
def SetTree.checkDepths (depth : Nat) : List SetTree → Except Problem Unit
  | [] => .ok ()
  | item :: items => do
      item.checkDepth depth
      SetTree.checkDepths depth items

end

mutual

/-- Finds the first part of a pattern that is nested too deep, where the pattern is
`depth` levels deep itself. -/
def Tree.checkDepth (depth : Nat) : Tree → Except Problem Unit
  | .empty _ => .ok ()
  | .flags _ _ => .ok ()
  | .literal _ => .ok ()
  | .dot _ => .ok ()
  | .anchor _ _ => .ok ()
  | .named _ => .ok ()
  | .bracketed span _ inner => do
      deeper depth span
      inner.checkDepth (depth + 1)
  | .repetition span _ _ inner => do
      deeper depth span
      inner.checkDepth (depth + 1)
  | .group span _ _ inner => do
      deeper depth span
      inner.checkDepth (depth + 1)
  | .choice span branches => do
      deeper depth span
      Tree.checkDepths (depth + 1) branches
  | .sequence span items => do
      deeper depth span
      Tree.checkDepths (depth + 1) items

/-- Finds the first part of several patterns that is nested too deep. -/
def Tree.checkDepths (depth : Nat) : List Tree → Except Problem Unit
  | [] => .ok ()
  | item :: items => do
      item.checkDepth depth
      Tree.checkDepths depth items

end

end Concordance.Pattern
