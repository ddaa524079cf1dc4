import Concordance.Index.Basic

/-!
Contract: whether a document contains words as one contiguous run.

Owns:
- looking for a position in an ascending list by halving it;
- the check, which tries the positions of the rarest word of the run and looks for
  every other word at its distance from there.

Does not own: filtering document sets by it (`Concordance.Query.Evaluation`).
-/

set_option autoImplicit false

namespace Concordance.Index

/-- The first of the shortest lists with its place, where the first list has place
`place`. -/
def shortestFrom (place : Nat) : List (List Nat) → Option (Nat × List Nat)
  | [] => none
  | list :: rest =>
      match shortestFrom (place + 1) rest with
      | none => some (place, list)
      | some (later, best) =>
          if best.length < list.length then some (later, best) else some (place, list)

theorem length_take_half_lt {list after : List Nat} {middle : Nat}
    (split : list.drop (list.length / 2) = middle :: after) :
    (list.take (list.length / 2)).length < list.length := by
  have behind := congrArg List.length split
  simp only [List.length_drop, List.length_cons] at behind
  rw [List.length_take]
  omega

theorem length_after_half_lt {list after : List Nat} {middle : Nat}
    (split : list.drop (list.length / 2) = middle :: after) :
    after.length < list.length := by
  have behind := congrArg List.length split
  simp only [List.length_drop, List.length_cons] at behind
  omega

/-- Whether an ascending list holds a position. The half that cannot hold it is given
up until the position is met or nothing is left. In a list that does not ascend the
position may be missed. -/
def probe (position : Nat) (list : List Nat) : Bool :=
  match _split : list.drop (list.length / 2) with
  | [] => false
  | middle :: after =>
      if position = middle then true
      else if position < middle then probe position (list.take (list.length / 2))
      else probe position after
termination_by list.length
decreasing_by
  · exact length_take_half_lt _split
  · exact length_after_half_lt _split

/-- Whether the ascending lists hold `position`, `position + 1` and so on, each the
next. -/
def runsFrom (position : Nat) : List (List Nat) → Bool
  | [] => true
  | list :: rest => probe position list && runsFrom (position + 1) rest

/-- Whether one of the positions `anchors`, taken as the position of the list at
`place`, is part of a run through all lists. -/
def runsThrough (lists : List (List Nat)) (place : Nat) (anchors : List Nat) : Bool :=
  anchors.any fun position => place ≤ position && runsFrom (position - place) lists

/-- Whether a document contains the words as a contiguous, ordered run. The empty
run is in every document. -/
def hasPhrase (index : Index) (document : Text) (words : List Text) : Bool :=
  match words.mapM (fun word => index.positions? word document) with
  | none => false
  | some lists =>
      match shortestFrom 0 lists with
      | none => true
      | some (place, anchors) => runsThrough lists place anchors

end Concordance.Index
