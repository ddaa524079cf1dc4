import Concordance.Proofs.Text.CharClass
import Concordance.Text.LowerCase

/-!
Contract: what lower-casing leaves behind.

The table of lower-case forms is checked once, run by run: every form is a letter that
has no other lower-case form. So lower-casing twice is lower-casing once, and a run of
letters stays one, with a single exception. The dotted capital I becomes two characters,
the second of which is a mark and no letter.

Owns:
- the lower-case form of a single character;
- that lower-casing is idempotent, and when its result consists of letters.

Does not own: where words are cut (`Concordance.Proofs.Text.LetterRuns`).
-/

set_option autoImplicit false

namespace Concordance.Text

/-! ## The table -/

namespace Table.LoweringRun

/-- The lower-case form of the first code point of a run. -/
def lowest (run : LoweringRun) : Nat := (run.first + run.shift).toNat

/-- The lower-case form of the last code point of a run. -/
def highest (run : LoweringRun) : Nat := (run.last + run.shift).toNat

/-- A sufficient condition for no lower-case form of a run to be lowered by another one:
the two lie apart, or both go in steps of two and never meet. -/
def isApartFrom (run other : LoweringRun) : Bool :=
  Nat.blt run.highest other.first || Nat.blt other.last run.lowest
    || (Nat.beq other.step 2 && (Nat.beq run.step 2 || Nat.beq run.first run.last)
      && Nat.beq ((run.lowest + other.first) % 2) 1)

/-- What is checked of each run of the table: its lower-case forms are letters of one range, the
dotted capital I is none of them, and no run lowers them again. -/
def isOrderly (run : LoweringRun) : Bool :=
  (Table.letters.any fun range =>
      Nat.ble run.highest range.2 && Nat.ble range.1 run.lowest)
    && (Nat.blt run.highest 0x130 || Nat.blt 0x130 run.lowest)
    && Table.lowering.all fun other => run.isApartFrom other

theorem contains_iff (run : LoweringRun) (code : Nat) :
    run.contains code = true ↔
      run.first ≤ code ∧ code ≤ run.last ∧ (code - run.first) % run.step = 0 := by
  simp only [contains, Bool.and_eq_true, decide_eq_true_eq, beq_iff_eq, and_assoc]

end Table.LoweringRun

theorem isOrderly_of_mem_lowering {run : Table.LoweringRun} (listed : run ∈ Table.lowering) :
    run.isOrderly = true := by
  have each : (Table.lowering.all Table.LoweringRun.isOrderly) = true := by decide +kernel
  exact List.all_eq_true.mp each run listed

/-- The lower-case forms of a run are letters of one range. -/
theorem lowering_within_letters : ∀ run ∈ Table.lowering, ∃ range ∈ Table.letters,
    range.1 ≤ run.lowest ∧ run.highest ≤ range.2 := by
  intro run listed
  have orderly := isOrderly_of_mem_lowering listed
  simp only [Table.LoweringRun.isOrderly, Bool.and_eq_true, List.any_eq_true, Nat.ble_eq] at orderly
  obtain ⟨⟨⟨range, member, below, above⟩, _⟩, _⟩ := orderly
  exact ⟨range, member, above, below⟩

theorem lowering_apart : ∀ run ∈ Table.lowering, ∀ other ∈ Table.lowering,
    run.isApartFrom other = true := by
  intro run listed
  have orderly := isOrderly_of_mem_lowering listed
  rw [Table.LoweringRun.isOrderly, Bool.and_eq_true] at orderly
  exact List.all_eq_true.mp orderly.2

/-- The dotted capital I is the lower-case form of no character. -/
theorem lowering_misses_dotted : ∀ run ∈ Table.lowering,
    run.highest < 0x130 ∨ 0x130 < run.lowest := by
  intro run listed
  have orderly := isOrderly_of_mem_lowering listed
  simp only [Table.LoweringRun.isOrderly, Bool.and_eq_true, Bool.or_eq_true, Nat.blt_eq] at orderly
  exact orderly.1.2

/-! ## One character -/

/-- A run of the table has a code point, which it lowers to `image`. -/
structure Table.LoweringRun.Lowers (run : LoweringRun) (code image : Nat) : Prop where
  listed : run ∈ Table.lowering
  contained : run.contains code = true
  shifted : (image : Int) = code + run.shift

namespace Table.LoweringRun.Lowers

variable {run other : LoweringRun} {code image : Nat}

/-- Forms are as far from each other as the code points that they belong to. -/
theorem between (lowers : run.Lowers code image) :
    run.lowest ≤ image ∧ image ≤ run.highest ∧ image + run.first = code + run.lowest := by
  obtain ⟨range, member, above, _⟩ := lowering_within_letters run lowers.listed
  have positive := (bounds_of_letters range member).1
  obtain ⟨first, last, _⟩ := (run.contains_iff code).mp lowers.contained
  have shifted := lowers.shifted
  unfold lowest at *
  unfold highest
  omega

/-- No run lowers what a run has lowered. -/
theorem not_contains (lowers : run.Lowers code image) (listed : other ∈ Table.lowering) :
    other.contains image = false := by
  by_contra meets
  rw [Bool.not_eq_false] at meets
  obtain ⟨above, below, steps⟩ := (other.contains_iff image).mp meets
  obtain ⟨first, last, ownSteps⟩ := (run.contains_iff code).mp lowers.contained
  obtain ⟨low, high, same⟩ := lowers.between
  have apart := lowering_apart run lowers.listed other listed
  simp only [isApartFrom, Bool.or_eq_true, Bool.and_eq_true, Nat.blt_eq, Nat.beq_eq] at apart
  rcases apart with (before | behind) | ⟨⟨two, inStep⟩, odd⟩
  · omega
  · omega
  · rw [two] at steps
    rcases inStep with two | single
    · rw [two] at ownSteps
      omega
    · omega

end Table.LoweringRun.Lowers

/-- A character is its own lower-case form, or it is lowered by a run of the table. -/
theorem lowerChar_cases (character : Char) :
    lowerChar character = character ∨
      ∃ run : Table.LoweringRun, run.Lowers character.toNat (lowerChar character).toNat := by
  unfold lowerChar
  split
  · rename_i run found
    have listed := List.mem_of_find?_eq_some found
    have contained := List.find?_some found
    refine .inr ⟨run, listed, contained, ?_⟩
    obtain ⟨first, last, _⟩ := (run.contains_iff _).mp contained
    obtain ⟨range, member, above, below⟩ := lowering_within_letters run listed
    obtain ⟨positive, valid⟩ := bounds_of_letters range member
    unfold Table.LoweringRun.lowest at above
    unfold Table.LoweringRun.highest at below
    have isValid : (character.toNat + run.shift).toNat.isValidChar := by
      unfold Nat.isValidChar
      omega
    have back : (Char.ofNat (character.toNat + run.shift).toNat).toNat
        = (character.toNat + run.shift).toNat := by
      rw [Char.ofNat, dif_pos isValid]
      rfl
    rw [back]
    omega
  · exact .inl rfl

/-- The lower-case form of a letter is a letter. -/
theorem isLetter_lowerChar {character : Char} (letter : isLetter character = true) :
    isLetter (lowerChar character) = true := by
  rcases lowerChar_cases character with same | ⟨run, lowers⟩
  · rw [same]
    exact letter
  · obtain ⟨range, member, above, below⟩ := lowering_within_letters run lowers.listed
    obtain ⟨low, high, _⟩ := lowers.between
    exact (isLetter_iff _).mpr
      ⟨range, member, Nat.le_trans above low, Nat.le_trans high below⟩

theorem lowerChar_lowerChar (character : Char) :
    lowerChar (lowerChar character) = lowerChar character := by
  rcases lowerChar_cases character with same | ⟨run, lowers⟩
  · rw [same, same]
  · rcases lowerChar_cases (lowerChar character) with same | ⟨other, again⟩
    · exact same
    · have contained := again.contained
      rw [lowers.not_contains again.listed] at contained
      cases contained

theorem lowerChar_ne_dotted {character : Char} (different : character ≠ 'İ') :
    lowerChar character ≠ 'İ' := by
  rcases lowerChar_cases character with same | ⟨run, lowers⟩
  · rw [same]
    exact different
  · obtain ⟨low, high, _⟩ := lowers.between
    have misses := lowering_misses_dotted run lowers.listed
    intro dotted
    have code : (lowerChar character).toNat = 0x130 := congrArg Char.toNat dotted
    omega

/-! ## Settled characters -/

/-- A character that lower-casing keeps wherever it stands. -/
def IsSettled (character : Char) : Prop :=
  lowerChar character = character ∧ character ≠ 'Σ' ∧ character ≠ 'İ'

instance (character : Char) : Decidable (IsSettled character) :=
  inferInstanceAs (Decidable (_ ∧ _ ∧ _))

theorem isSettled_lowerChar {character : Char} (different : character ≠ 'İ') :
    IsSettled (lowerChar character) := by
  refine ⟨lowerChar_lowerChar character, ?_, lowerChar_ne_dotted different⟩
  intro sigma
  have twice := lowerChar_lowerChar character
  rw [sigma] at twice
  exact absurd twice (by decide +kernel)

theorem lowerAfter_cons_of_ne {character : Char} (before rest : Text)
    (notSigma : character ≠ 'Σ') (notDotted : character ≠ 'İ') :
    lowerAfter before (character :: rest)
      = lowerChar character :: lowerAfter (character :: before) rest := by
  rw [lowerAfter, if_neg notSigma, if_neg notDotted]
  rfl

theorem lowerAfter_eq_self {text : Text} (settled : ∀ character ∈ text, IsSettled character)
    (before : Text) : lowerAfter before text = text := by
  induction text generalizing before with
  | nil => rfl
  | cons character rest inductionHypothesis =>
      obtain ⟨same, notSigma, notDotted⟩ := settled character List.mem_cons_self
      rw [lowerAfter_cons_of_ne before rest notSigma notDotted, same,
        inductionHypothesis fun other member => settled other (List.mem_cons_of_mem _ member)]

/-! ## Texts -/

/-- What one character is lowered to: a form of the capital sigma, the two characters of
the dotted capital I, or the lower-case form of any other character. -/
inductive Gives : Char → Char → Prop
  | sigma {form : Char} (either : form = 'ς' ∨ form = 'σ') : Gives 'Σ' form
  | dotted {part : Char} (either : part = 'i' ∨ part = '\u0307') : Gives 'İ' part
  | plain {origin : Char} (notDotted : origin ≠ 'İ') : Gives origin (lowerChar origin)

/-- Every character of a lowered text comes from one of the text. -/
theorem exists_gives_of_mem {character : Char} {before text : Text}
    (member : character ∈ lowerAfter before text) :
    ∃ origin ∈ text, Gives origin character := by
  induction text generalizing before with
  | nil => cases member
  | cons head rest inductionHypothesis =>
      rw [lowerAfter, List.mem_append] at member
      rcases member with first | later
      · refine ⟨head, List.mem_cons_self, ?_⟩
        by_cases sigma : head = 'Σ'
        · rw [if_pos sigma, List.mem_singleton] at first
          rw [sigma, first]
          refine .sigma ?_
          unfold lowerSigma
          split
          · exact .inl rfl
          · exact .inr rfl
        · rw [if_neg sigma] at first
          by_cases dotted : head = 'İ'
          · rw [if_pos dotted, List.mem_cons, List.mem_singleton] at first
            rw [dotted]
            exact .dotted first
          · rw [if_neg dotted, List.mem_singleton] at first
            rw [first]
            exact .plain dotted
      · obtain ⟨origin, member, gives⟩ := inductionHypothesis later
        exact ⟨origin, List.mem_cons_of_mem _ member, gives⟩

theorem Gives.isSettled {origin character : Char} (gives : Gives origin character) :
    IsSettled character := by
  cases gives with
  | sigma either => rcases either with rfl | rfl <;> decide +kernel
  | dotted either => rcases either with rfl | rfl <;> decide +kernel
  | plain notDotted => exact isSettled_lowerChar notDotted

theorem Gives.isLetter {origin character : Char} (gives : Gives origin character)
    (letter : Text.isLetter origin = true) (notDotted : origin ≠ 'İ') :
    Text.isLetter character = true := by
  cases gives with
  | sigma either => rcases either with rfl | rfl <;> decide +kernel
  | dotted _ => exact absurd rfl notDotted
  | plain _ => exact isLetter_lowerChar letter

theorem isSettled_of_mem_lowerCase {character : Char} {text : Text}
    (member : character ∈ lowerCase text) : IsSettled character := by
  obtain ⟨_, _, gives⟩ := exists_gives_of_mem member
  exact gives.isSettled

/-- Lower-casing twice is lower-casing once. -/
theorem lowerCase_lowerCase (text : Text) : lowerCase (lowerCase text) = lowerCase text :=
  lowerAfter_eq_self (fun _ member => isSettled_of_mem_lowerCase member) []

theorem lowerCase_ne_nil {text : Text} (nonempty : text ≠ []) : lowerCase text ≠ [] := by
  cases text with
  | nil => exact absurd rfl nonempty
  | cons character rest =>
      rw [lowerCase, lowerAfter]
      split
      · exact List.cons_ne_nil _ _
      · split
        · exact List.cons_ne_nil _ _
        · exact List.cons_ne_nil _ _

/-- The mark of a dotted capital I stays in the text. -/
theorem mark_mem_lowerAfter {text : Text} (dotted : 'İ' ∈ text) (before : Text) :
    '\u0307' ∈ lowerAfter before text := by
  induction text generalizing before with
  | nil => cases dotted
  | cons head rest inductionHypothesis =>
      rw [lowerAfter, List.mem_append]
      rcases List.mem_cons.mp dotted with rfl | later
      · left
        rw [if_neg (by decide), if_pos rfl]
        exact List.mem_cons_of_mem _ List.mem_cons_self
      · exact .inr (inductionHypothesis later _)

/-- Letters are lowered to letters, unless a dotted capital I is among them. -/
theorem isLetter_of_mem_lowerCase_iff {text : Text}
    (letters : ∀ character ∈ text, isLetter character = true) :
    (∀ character ∈ lowerCase text, isLetter character = true) ↔ 'İ' ∉ text := by
  constructor
  · intro lowered dotted
    have letter := lowered '\u0307' (mark_mem_lowerAfter dotted [])
    exact absurd letter (by decide +kernel)
  · intro notDotted character member
    obtain ⟨origin, originMember, gives⟩ := exists_gives_of_mem member
    refine gives.isLetter (letters origin originMember) ?_
    rintro rfl
    exact notDotted originMember

end Concordance.Text
