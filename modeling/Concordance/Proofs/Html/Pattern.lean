import Concordance.Html.Pattern
import Mathlib.Data.List.Infix

/-!
Contract: where the small patterns of markup fit.

Each pattern says what follows it. Here that is turned into what stands in front: a fixed
text, a name in letters of either case, or a stretch in which nothing else fits.

Owns:
- fixed texts and names at the front of a text;
- the first place at which a pattern fits.

Does not own: the patterns of blocks (`Concordance.Proofs.Html.Visible`).
-/

set_option autoImplicit false

namespace Concordance.Html

theorem afterText?_eq_some_iff {fixed text rest : Text} :
    afterText? fixed text = some rest ↔ text = fixed ++ rest := by
  fun_induction afterText? fixed text with
  | case1 text => simp [eq_comm]
  | case2 expected others => simp
  | case3 expected others following inductionHypothesis => simpa using inductionHypothesis
  | case4 expected others character following different =>
      simp [different]

theorem afterText?_append (fixed rest : Text) : afterText? fixed (fixed ++ rest) = some rest :=
  afterText?_eq_some_iff.mpr rfl

/-- A name is written in letters of either case. -/
theorem afterName?_eq_some_iff {name text rest : Text} :
    afterName? name text = some rest ↔
      ∃ written, text = written ++ rest ∧ written.map foldCase = name := by
  fun_induction afterName? name text with
  | case1 text =>
      constructor
      · intro same
        exact ⟨[], (Option.some.inj same), rfl⟩
      · rintro ⟨written, rfl, none⟩
        rw [List.map_eq_nil_iff.mp none, List.nil_append]
  | case2 letter name =>
      constructor
      · intro none
        cases none
      · rintro ⟨written, none, spelled⟩
        have empty : written = [] := (List.append_eq_nil_iff.mp none.symm).1
        rw [empty] at spelled
        cases spelled
  | case3 name character following inductionHypothesis =>
      rw [inductionHypothesis]
      constructor
      · rintro ⟨written, rfl, rfl⟩
        exact ⟨character :: written, rfl, rfl⟩
      · rintro ⟨written, same, spelled⟩
        cases written with
        | nil => cases spelled
        | cons first others =>
            exact ⟨others, (List.cons.inj same).2, (List.cons.inj spelled).2⟩
  | case4 letter name character following different =>
      constructor
      · intro none
        cases none
      · rintro ⟨written, same, spelled⟩
        cases written with
        | nil => cases spelled
        | cons first others =>
            rw [← (List.cons.inj same).1] at spelled
            exact absurd (List.cons.inj spelled).1 different

theorem afterName?_append {name written : Text} (spelled : written.map foldCase = name)
    (rest : Text) : afterName? name (written ++ rest) = some rest :=
  afterName?_eq_some_iff.mpr ⟨written, rfl, spelled⟩

/-- Only one of two names can be written at the front of a text, unless one begins with the
other. -/
theorem afterName?_eq_none {name other written : Text}
    (spelled : written.map foldCase = name) (longer : ¬other <+: name)
    (shorter : ¬name <+: other) (rest : Text) : afterName? other (written ++ rest) = none := by
  rw [Option.eq_none_iff_forall_ne_some]
  intro left found
  obtain ⟨front, same, fits⟩ := afterName?_eq_some_iff.mp found
  have inFront : front <+: written ++ rest := ⟨left, same.symm⟩
  rcases List.prefix_or_prefix_of_prefix inFront (List.prefix_append written rest) with
    within | beyond
  · apply longer
    rw [← fits, ← spelled]
    exact within.map foldCase
  · apply shorter
    rw [← fits, ← spelled]
    exact beyond.map foldCase

/-- A character without case is none of the letters of a name that does not have it. -/
theorem notMem_of_map_foldCase {name written : Text} {mark : Char}
    (spelled : written.map foldCase = name) (fixed : foldCase mark = mark)
    (missing : mark ∉ name) : mark ∉ written := by
  intro member
  apply missing
  rw [← spelled, ← fixed]
  exact List.mem_map_of_mem member

theorem afterChar?_append {last : Char} {front : Text} (free : last ∉ front) (rest : Text) :
    afterChar? last (front ++ last :: rest) = some rest := by
  have others : ∀ character ∈ front, (decide (character ≠ last)) = true := by
    intro character member
    apply decide_eq_true
    rintro rfl
    exact free member
  rw [afterChar?, List.dropWhile_append_of_pos others, List.dropWhile_cons_of_neg (by simp)]

/-- The first place at which a pattern fits is behind the stretch in which it does not. -/
theorem afterFirst?_append {pattern : Text → Option Text} {front back rest : Text}
    (apart : ∀ before behind, front = before ++ behind → behind ≠ [] →
      pattern (behind ++ back) = none)
    (fits : pattern back = some rest) : afterFirst? pattern (front ++ back) = some rest := by
  induction front with
  | nil =>
      rw [List.nil_append, afterFirst?.eq_def, fits]
  | cons character others inductionHypothesis =>
      have here : pattern (character :: others ++ back) = none :=
        apart [] (character :: others) rfl (List.cons_ne_nil _ _)
      rw [afterFirst?.eq_def, here]
      apply inductionHypothesis
      intro before behind split nonempty
      exact apart (character :: before) behind (by rw [split, List.cons_append]) nonempty

end Concordance.Html
