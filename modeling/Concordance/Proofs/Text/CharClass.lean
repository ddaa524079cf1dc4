import Concordance.Text.CharClass
import Mathlib.Data.List.Basic

/-!
Contract: classes of characters as sets of code points.

A class is looked up in ranges that ascend, and the search stops early. Here membership
becomes that of one of the ranges, so that facts about whole classes are facts about two
short tables.

Owns:
- membership in ascending ranges;
- the ranges of letters, and that no blank is a letter or continues a word.

Does not own: lower-case letters (`Concordance.Proofs.Text.LowerCase`).
-/

set_option autoImplicit false

namespace Concordance.Text

theorem exists_of_inRanges {code : Nat} {ranges : List (Nat × Nat)}
    (within : inRanges code ranges = true) :
    ∃ range ∈ ranges, range.1 ≤ code ∧ code ≤ range.2 := by
  induction ranges with
  | nil => cases within
  | cons range rest inductionHypothesis =>
      obtain ⟨first, last⟩ := range
      simp only [inRanges, Bool.and_eq_true, Bool.or_eq_true, decide_eq_true_eq] at within
      obtain ⟨above, below | later⟩ := within
      · exact ⟨(first, last), List.mem_cons_self, above, below⟩
      · obtain ⟨range, member, between⟩ := inductionHypothesis later
        exact ⟨range, List.mem_cons_of_mem _ member, between⟩

/-- The search does not stop in front of a range that ascending order puts later. -/
theorem inRanges_of_mem {code : Nat} {ranges : List (Nat × Nat)} {range : Nat × Nat}
    (ascending : (ranges.map Prod.fst).Pairwise (· ≤ ·)) (member : range ∈ ranges)
    (above : range.1 ≤ code) (below : code ≤ range.2) : inRanges code ranges = true := by
  induction ranges with
  | nil => cases member
  | cons head rest inductionHypothesis =>
      obtain ⟨first, last⟩ := head
      rw [List.map_cons, List.pairwise_cons] at ascending
      simp only [inRanges, Bool.and_eq_true, Bool.or_eq_true, decide_eq_true_eq]
      rcases List.mem_cons.mp member with rfl | later
      · exact ⟨above, .inl below⟩
      · have before : first ≤ range.1 :=
          ascending.1 range.1 (List.mem_map.mpr ⟨range, later, rfl⟩)
        exact ⟨Nat.le_trans before above, .inr (inductionHypothesis ascending.2 later)⟩

/-! ## Letters -/

theorem letters_ascending : (Table.letters.map Prod.fst).Pairwise (· ≤ ·) :=
  List.isChain_iff_pairwise.mp (by decide +kernel)

theorem isLetter_iff (character : Char) :
    isLetter character = true ↔
      ∃ range ∈ Table.letters, range.1 ≤ character.toNat ∧ character.toNat ≤ range.2 := by
  constructor
  · exact exists_of_inRanges
  · rintro ⟨range, member, above, below⟩
    exact inRanges_of_mem letters_ascending member above below

/-- Every code point of the ranges is that of a character. -/
theorem bounds_of_letters : ∀ range ∈ Table.letters,
    0 < range.1 ∧ (range.2 < 0xD800 ∨ 0xDFFF < range.1 ∧ range.2 < 0x110000) := by
  have valid : (Table.letters.all fun range => Nat.blt 0 range.1 &&
      (Nat.blt range.2 0xD800 || Nat.blt 0xDFFF range.1 && Nat.blt range.2 0x110000))
        = true := by
    decide +kernel
  simpa only [List.all_eq_true, Bool.or_eq_true, Bool.and_eq_true, Nat.blt_eq] using valid

/-! ## Blanks -/

/-- A code point is not in two tables whose ranges are apart. -/
theorem inRanges_eq_false_of_apart {code : Nat} {ranges others : List (Nat × Nat)}
    (apart : (ranges.all fun range => others.all fun other =>
      Nat.blt range.2 other.1 || Nat.blt other.2 range.1) = true)
    (within : inRanges code ranges = true) : inRanges code others = false := by
  by_contra both
  rw [Bool.not_eq_false] at both
  obtain ⟨range, member, above, below⟩ := exists_of_inRanges within
  obtain ⟨other, otherMember, otherAbove, otherBelow⟩ := exists_of_inRanges both
  simp only [List.all_eq_true, Bool.or_eq_true, Nat.blt_eq] at apart
  rcases apart range member other otherMember with before | behind
  · omega
  · omega

/-- No letter is a blank. -/
theorem isBlank_eq_false_of_isLetter {character : Char}
    (letter : isLetter character = true) : isBlank character = false :=
  inRanges_eq_false_of_apart (by decide +kernel) letter

/-- A word ends at a blank. -/
theorem isWordlike_eq_false_of_isBlank {character : Char}
    (blank : isBlank character = true) : isWordlike character = false := by
  have noLetter : isLetter character = false := by
    by_contra letter
    rw [Bool.not_eq_false] at letter
    rw [isBlank_eq_false_of_isLetter letter] at blank
    cases blank
  have noMark : inRanges character.toNat Table.wordMarks = false :=
    inRanges_eq_false_of_apart (by decide +kernel) blank
  rw [isWordlike, noLetter, noMark, Bool.or_self, Bool.false_and]

end Concordance.Text
