import Concordance.Proofs.Text.Words
import Mathlib.Data.List.Forall2

/-!
Contract: the case of ASCII letters makes no difference to the words of a text.

Nothing that reading a text depends on tells an ASCII capital from its small letter, and only
26 characters are changed when ASCII capitals are lowered. A capital sigma takes its form from
the characters around it, but only from whether they are cased and whether case rules look
through them, and that is the same for both letters too.

Owns:
- texts that differ in the case of ASCII letters alone;
- what two such characters have in common;
- that such texts have the same lower-case form, and the same words at the same places.

Does not own: the case of other letters, which lower-casing settles
(`Concordance.Proofs.Text.LowerCase`).
-/

set_option autoImplicit false

namespace Concordance.Text

/-! ## Characters -/

/-- The ASCII capitals. -/
def capitals : Text := (List.range' 65 26).map Char.ofNat

/-- Lowering ASCII capitals leaves every other character as it is. -/
theorem toLower_eq_self_or_mem (character : Char) :
    character.toLower = character ∨ character ∈ capitals := by
  by_cases capital : 'A'.val ≤ character.val ∧ character.val ≤ 'Z'.val
  · obtain ⟨above, below⟩ := capital
    rw [UInt32.le_iff_toNat_le] at above below
    refine .inr (List.mem_map.mpr ⟨character.toNat, List.mem_range'_1.mpr ?_, ?_⟩)
    · exact ⟨above, Nat.lt_succ_of_le below⟩
    · exact Char.ofNat_toNat character
  · exact .inl (dif_neg capital)

/-- What is the same for each capital and its small letter is the same for a character and
its ASCII lower-case form. -/
theorem apply_toLower {Value : Type} [DecidableEq Value] (observe : Char → Value)
    (same : (capitals.all fun capital =>
      decide (observe capital.toLower = observe capital)) = true) (character : Char) :
    observe character.toLower = observe character := by
  rcases toLower_eq_self_or_mem character with unchanged | capital
  · rw [unchanged]
  · exact of_decide_eq_true (List.all_eq_true.mp same character capital)

section Observations

variable (character : Char)

theorem utf8Size_toLower : character.toLower.utf8Size = character.utf8Size :=
  apply_toLower Char.utf8Size (by decide +kernel) character

theorem isLetter_toLower : isLetter character.toLower = isLetter character :=
  apply_toLower isLetter (by decide +kernel) character

theorem isCased_toLower : isCased character.toLower = isCased character :=
  apply_toLower isCased (by decide +kernel) character

theorem isCaseIgnorable_toLower :
    isCaseIgnorable character.toLower = isCaseIgnorable character :=
  apply_toLower isCaseIgnorable (by decide +kernel) character

theorem lowerChar_toLower : lowerChar character.toLower = lowerChar character :=
  apply_toLower lowerChar (by decide +kernel) character

/-- Behind the ASCII letters no character gains another one by the lowering of capitals. -/
theorem toLower_eq_iff {other : Char} (behind : 'z'.toNat < other.toNat) :
    character.toLower = other ↔ character = other := by
  rcases toLower_eq_self_or_mem character with unchanged | capital
  · rw [unchanged]
  · have within : (capitals.all fun capital => Nat.ble capital.toNat 'z'.toNat
        && Nat.ble capital.toLower.toNat 'z'.toNat) = true := by decide +kernel
    have bounds := List.all_eq_true.mp within character capital
    rw [Bool.and_eq_true, Nat.ble_eq, Nat.ble_eq] at bounds
    obtain ⟨own, lowered⟩ := bounds
    refine iff_of_false ?_ ?_
    · rintro rfl
      exact absurd lowered (Nat.not_le_of_lt behind)
    · rintro rfl
      exact absurd own (Nat.not_le_of_lt behind)

end Observations

/-! ## Recased texts -/

/-- A character, the small letter of an ASCII capital, or the capital of an ASCII small
letter. -/
def IsRecase (own changed : Char) : Prop :=
  changed = own ∨ changed = own.toLower ∨ own = changed.toLower

instance (own changed : Char) : Decidable (IsRecase own changed) :=
  inferInstanceAs (Decidable (_ ∨ _ ∨ _))

/-- The texts are the same but for the case of any of their ASCII letters. -/
def Recased (text other : Text) : Prop := List.Forall₂ IsRecase text other

instance (text other : Text) : Decidable (Recased text other) :=
  inferInstanceAs (Decidable (List.Forall₂ IsRecase text other))

theorem IsRecase.toLower_eq {own changed : Char} (recase : IsRecase own changed) :
    changed.toLower = own.toLower := by
  have twice : ∀ character : Char, character.toLower.toLower = character.toLower :=
    apply_toLower Char.toLower (by decide +kernel)
  rcases recase with rfl | rfl | rfl
  · rfl
  · exact twice own
  · exact (twice changed).symm

theorem Recased.lowerAscii_eq {text other : Text} (recased : Recased text other) :
    other.lowerAscii = text.lowerAscii := by
  induction recased with
  | nil => rfl
  | cons recase _ inductionHypothesis =>
      exact congrArg₂ List.cons recase.toLower_eq inductionHypothesis

/-! ## Lowered texts -/

theorem lowerAscii_cons (character : Char) (rest : Text) :
    lowerAscii (character :: rest) = character.toLower :: rest.lowerAscii := rfl

theorem lowerAscii_append (front back : Text) :
    lowerAscii (front ++ back) = front.lowerAscii ++ back.lowerAscii := List.map_append

theorem width_lowerAscii (text : Text) : width text.lowerAscii = width text := by
  induction text with
  | nil => rfl
  | cons character rest inductionHypothesis =>
      rw [lowerAscii_cons, width_cons, width_cons, utf8Size_toLower, inductionHypothesis]

theorem IsRun.lowerAscii {run : Text} (isRun : IsRun run) : IsRun run.lowerAscii where
  nonempty empty := isRun.nonempty (List.map_eq_nil_iff.mp empty)
  letters := by
    intro character member
    obtain ⟨origin, originMember, rfl⟩ := List.mem_map.mp member
    rw [isLetter_toLower]
    exact isRun.letters origin originMember

theorem EndsLetters.lowerAscii {rest : Text} (ends : EndsLetters rest) :
    EndsLetters rest.lowerAscii := by
  intro character member
  rw [Text.lowerAscii, List.head?_map] at member
  obtain ⟨origin, first, rfl⟩ := Option.map_eq_some_iff.mp member
  rw [isLetter_toLower]
  exact ends origin first

/-! ## Lower-case forms -/

/-- Around a capital sigma it does not matter which of its two cases an ASCII letter has. -/
theorem meetsCased_lowerAscii (context : Text) :
    meetsCased context.lowerAscii = meetsCased context := by
  induction context with
  | nil => rfl
  | cons character rest inductionHypothesis =>
      rw [lowerAscii_cons, meetsCased, meetsCased]
      cases ignorable : isCaseIgnorable character with
      | true =>
          rw [List.dropWhile_cons_of_pos (by rw [isCaseIgnorable_toLower, ignorable]),
            List.dropWhile_cons_of_pos ignorable]
          exact inductionHypothesis
      | false =>
          have kept : ¬isCaseIgnorable character = true := by
            rw [ignorable]
            decide
          rw [List.dropWhile_cons_of_neg (by rwa [isCaseIgnorable_toLower]),
            List.dropWhile_cons_of_neg kept]
          exact isCased_toLower character

theorem lowerSigma_lowerAscii (before after : Text) :
    lowerSigma before.lowerAscii after.lowerAscii = lowerSigma before after := by
  rw [lowerSigma, meetsCased_lowerAscii, meetsCased_lowerAscii]
  rfl

theorem lowerAfter_lowerAscii (before text : Text) :
    lowerAfter before.lowerAscii text.lowerAscii = lowerAfter before text := by
  induction text generalizing before with
  | nil => rfl
  | cons character rest inductionHypothesis =>
      have sigma := toLower_eq_iff character (by decide : 'z'.toNat < 'Σ'.toNat)
      have dotted := toLower_eq_iff character (by decide : 'z'.toNat < 'İ'.toNat)
      have later := inductionHypothesis (character :: before)
      rw [lowerAscii_cons] at later ⊢
      simp only [lowerAfter, sigma, dotted, lowerChar_toLower, lowerSigma_lowerAscii, later]

theorem lowerCase_lowerAscii (text : Text) : lowerCase text.lowerAscii = lowerCase text :=
  lowerAfter_lowerAscii [] text

/-! ## Words -/

/-- The scan for words goes through both texts in the same steps. -/
theorem wordsFrom_lowerAscii (position offset : Nat) (text : Text) :
    wordsFrom position offset text.lowerAscii = wordsFrom position offset text := by
  induction text using induction_on_runs generalizing position offset with
  | nil => rfl
  | separator character rest separator inductionHypothesis =>
      have lowered : isLetter character.toLower = false := by
        rw [isLetter_toLower, separator]
      rw [lowerAscii_cons, wordsFrom_separator lowered, wordsFrom_separator separator,
        utf8Size_toLower, inductionHypothesis]
  | run run rest isRun ends inductionHypothesis =>
      rw [lowerAscii_append, wordsFrom_run isRun.lowerAscii ends.lowerAscii,
        wordsFrom_run isRun ends, lowerCase_lowerAscii, width_lowerAscii, inductionHypothesis]

/-- Recased texts have the same words, with the same ordinals and offsets. -/
theorem Recased.words_eq {text other : Text} (recased : Recased text other) :
    other.words = text.words := by
  rw [words, words, ← wordsFrom_lowerAscii, recased.lowerAscii_eq, wordsFrom_lowerAscii]

end Concordance.Text
