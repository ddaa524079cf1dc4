import Concordance.Proofs.Text.LetterRuns
import Mathlib.Data.List.Basic

/-!
Contract: a text read from left to right, one separator or one run of letters at a time.

Every text is empty, or begins with a separator, or begins with a run of letters that no
letter follows. The scan for words has one rule for each of the three.

Owns:
- the induction on separators and runs;
- which letters the runs of a text hold;
- the runs of a text that is cut in two;
- the rules of the scan for words, with its ordinals and offsets.

Does not own: texts with operators (`Concordance.Proofs.Query.Tokens`).
-/

set_option autoImplicit false

namespace Concordance.Text

/-- A text of at least one letter and nothing else. -/
structure IsRun (run : Text) : Prop where
  nonempty : run ≠ []
  letters : ∀ character ∈ run, isLetter character = true

theorem isRun_iff (run : Text) : IsRun run ↔ (!run.isEmpty && run.all isLetter) = true := by
  rw [Bool.and_eq_true, Bool.not_eq_true', List.isEmpty_eq_false_iff, List.all_eq_true]
  exact ⟨fun isRun => ⟨isRun.nonempty, isRun.letters⟩, fun ⟨nonempty, letters⟩ =>
    ⟨nonempty, letters⟩⟩

instance (run : Text) : Decidable (IsRun run) := decidable_of_iff _ (isRun_iff run).symm

/-- Behind a run of letters stands a text that does not go on with a letter. -/
def EndsLetters (rest : Text) : Prop := ∀ character ∈ rest.head?, isLetter character = false

theorem endsLetters_iff (rest : Text) :
    EndsLetters rest ↔ rest.head?.all (fun character => !isLetter character) = true := by
  rw [EndsLetters]
  cases rest.head? <;> simp

instance (rest : Text) : Decidable (EndsLetters rest) :=
  decidable_of_iff _ (endsLetters_iff rest).symm

theorem endsLetters_nil : EndsLetters [] := fun _ member => by cases member

theorem endsLetters_cons {character : Char} (separator : isLetter character = false)
    (rest : Text) : EndsLetters (character :: rest) := by
  rintro _ ⟨⟩
  exact separator

theorem endsLetters_of_forall {text : Text}
    (separators : ∀ character ∈ text, isLetter character = false) : EndsLetters text :=
  fun character member => separators character (List.mem_of_mem_head? member)

theorem EndsLetters.of_append {front back : Text} (ends : EndsLetters (front ++ back)) :
    EndsLetters front :=
  fun character member => ends character (List.mem_head?_append_of_mem_head? member)

namespace IsRun

variable {run : Text}

theorem exists_cons (isRun : IsRun run) : ∃ letter others, run = letter :: others ∧
    isLetter letter = true ∧ ∀ character ∈ others, isLetter character = true := by
  obtain ⟨letter, others, rfl⟩ := List.exists_cons_of_ne_nil isRun.nonempty
  exact ⟨letter, others, rfl, isRun.letters letter List.mem_cons_self,
    fun character member => isRun.letters character (List.mem_cons_of_mem _ member)⟩

theorem reverse (isRun : IsRun run) : IsRun run.reverse :=
  ⟨List.reverse_ne_nil_iff.mpr isRun.nonempty, by simpa using isRun.letters⟩

theorem not_endsLetters (isRun : IsRun run) (rest : Text) : ¬EndsLetters (run ++ rest) := by
  obtain ⟨letter, others, rfl, first, _⟩ := isRun.exists_cons
  intro ends
  rw [ends letter rfl] at first
  cases first

end IsRun

theorem takeWhile_isLetter_append {run rest : Text}
    (letters : ∀ character ∈ run, isLetter character = true) (ends : EndsLetters rest) :
    (run ++ rest).takeWhile isLetter = run := by
  rw [List.takeWhile_append_of_pos letters]
  cases rest with
  | nil => exact List.append_nil _
  | cons character rest =>
      rw [List.takeWhile_cons_of_neg (by rw [ends character rfl]; decide), List.append_nil]

theorem dropWhile_isLetter_append {run rest : Text}
    (letters : ∀ character ∈ run, isLetter character = true) (ends : EndsLetters rest) :
    (run ++ rest).dropWhile isLetter = rest := by
  rw [List.dropWhile_append_of_pos letters]
  cases rest with
  | nil => rfl
  | cons character rest =>
      rw [List.dropWhile_cons_of_neg (by rw [ends character rfl]; decide)]

/-- A text that begins with a letter begins with a run. -/
theorem exists_run_append {letter : Char} (isLetter : isLetter letter = true) (others : Text) :
    ∃ run rest, letter :: others = run ++ rest ∧ IsRun run ∧ EndsLetters rest := by
  refine ⟨letter :: others.takeWhile Text.isLetter, others.dropWhile Text.isLetter, ?_,
    ⟨List.cons_ne_nil _ _, fun other member => ?_⟩, fun other member => ?_⟩
  · rw [List.cons_append, List.takeWhile_append_dropWhile]
  · rcases List.mem_cons.mp member with rfl | member
    · exact isLetter
    · exact List.all_eq_true.mp List.all_takeWhile other member
  · have head := List.head?_dropWhile_not Text.isLetter others
    rw [Option.mem_def.mp member] at head
    simpa using head

/-- Whatever holds of the empty text, and of a text with one more separator or one more
run of letters in front, holds of all texts. -/
@[elab_as_elim]
theorem induction_on_runs {motive : Text → Prop} (text : Text) (nil : motive [])
    (separator : ∀ character rest, isLetter character = false → motive rest →
      motive (character :: rest))
    (run : ∀ run rest, IsRun run → EndsLetters rest → motive rest → motive (run ++ rest)) :
    motive text := by
  induction length : text.length using Nat.strongRecOn generalizing text with
  | _ size inductionHypothesis =>
      cases text with
      | nil => exact nil
      | cons character others =>
          rw [List.length_cons] at length
          cases letter : isLetter character with
          | false =>
              exact separator character others letter
                (inductionHypothesis others.length (by omega) others rfl)
          | true =>
              obtain ⟨front, rest, split, isRun, ends⟩ := exists_run_append letter others
              have lengths := congrArg List.length split
              have positive := List.length_pos_iff.mpr isRun.nonempty
              rw [List.length_cons, List.length_append] at lengths
              rw [split]
              exact run front rest isRun ends
                (inductionHypothesis rest.length (by omega) rest rfl)

/-! ## Runs of a text -/

theorem isRun_of_mem_letterRuns {text run : Text} (member : run ∈ letterRuns text) :
    IsRun run := by
  induction text using induction_on_runs with
  | nil => cases member
  | separator character rest separator inductionHypothesis =>
      rw [letterRuns_cons separator] at member
      exact inductionHypothesis member
  | run first rest isRun ends inductionHypothesis =>
      rw [letterRuns_append isRun.nonempty isRun.letters ends] at member
      rcases List.mem_cons.mp member with rfl | later
      · exact isRun
      · exact inductionHypothesis later

/-- The runs of a text hold its letters and nothing else. -/
theorem exists_run_iff (text : Text) (character : Char) :
    (∃ run ∈ letterRuns text, character ∈ run) ↔
      character ∈ text ∧ isLetter character = true := by
  induction text using induction_on_runs with
  | nil => simp [letterRuns]
  | separator other rest separator inductionHypothesis =>
      rw [letterRuns_cons separator, inductionHypothesis, List.mem_cons]
      constructor
      · rintro ⟨member, letter⟩
        exact ⟨.inr member, letter⟩
      · rintro ⟨rfl | member, letter⟩
        · rw [separator] at letter
          cases letter
        · exact ⟨member, letter⟩
  | run first rest isRun ends inductionHypothesis =>
      rw [letterRuns_append isRun.nonempty isRun.letters ends, List.exists_mem_cons_iff,
        inductionHypothesis, List.mem_append]
      constructor
      · rintro (member | ⟨member, letter⟩)
        · exact ⟨.inl member, isRun.letters character member⟩
        · exact ⟨.inr member, letter⟩
      · rintro ⟨member | member, letter⟩
        · exact .inl member
        · exact .inr ⟨member, letter⟩

/-- Only separators make no runs. -/
theorem letterRuns_eq_nil_iff (text : Text) :
    letterRuns text = [] ↔ ∀ character ∈ text, isLetter character = false := by
  constructor
  · intro none character member
    by_contra letter
    rw [Bool.not_eq_false] at letter
    obtain ⟨run, found, _⟩ := (exists_run_iff text character).mpr ⟨member, letter⟩
    rw [none] at found
    cases found
  · intro separators
    by_contra some
    obtain ⟨run, found⟩ := List.exists_mem_of_ne_nil _ some
    obtain ⟨character, member⟩ :=
      List.exists_mem_of_ne_nil _ (isRun_of_mem_letterRuns found).nonempty
    obtain ⟨inText, letter⟩ := (exists_run_iff text character).mp ⟨run, found, member⟩
    rw [separators character inText] at letter
    cases letter

/-! ## Texts in two parts -/

/-- A text that goes on with a letter begins with a run. -/
theorem exists_run_of_not_endsLetters {text : Text} (begins : ¬EndsLetters text) :
    ∃ run rest, text = run ++ rest ∧ IsRun run ∧ EndsLetters rest := by
  cases text with
  | nil => exact absurd endsLetters_nil begins
  | cons character others =>
      have letter : isLetter character = true := by
        by_contra separator
        exact begins (endsLetters_cons (eq_false_of_ne_true separator) others)
      exact exists_run_append letter others

/-- A run at the front of a text goes no further than the text if letters do not stand on
both sides of its end. -/
theorem IsRun.endsLetters_append {run rest after : Text} (isRun : IsRun run)
    (ends : EndsLetters rest) (apart : EndsLetters (run ++ rest).reverse ∨ EndsLetters after) :
    EndsLetters (rest ++ after) := by
  cases rest with
  | nil =>
      exact apart.resolve_left fun begins =>
        isRun.reverse.not_endsLetters [] (by simpa using begins)
  | cons character rest => exact endsLetters_cons (ends character rfl) _

/-- The runs of a text are those of its parts if letters do not stand on both sides of the
cut. -/
theorem letterRuns_append_of_apart {front back : Text}
    (apart : EndsLetters front.reverse ∨ EndsLetters back) :
    letterRuns (front ++ back) = letterRuns front ++ letterRuns back := by
  induction front using induction_on_runs with
  | nil => rfl
  | separator character rest separator inductionHypothesis =>
      rw [List.reverse_cons] at apart
      rw [List.cons_append, letterRuns_cons separator, letterRuns_cons separator,
        inductionHypothesis (apart.imp_left EndsLetters.of_append)]
  | run run rest isRun ends inductionHypothesis =>
      have endsAfter := isRun.endsLetters_append ends apart
      rw [List.reverse_append] at apart
      rw [List.append_assoc, letterRuns_append isRun.nonempty isRun.letters endsAfter,
        letterRuns_append isRun.nonempty isRun.letters ends,
        inductionHypothesis (apart.imp_left EndsLetters.of_append), List.cons_append]

/-- A cut between two letters makes two runs of one. -/
theorem length_letterRuns_of_inside {front back : Text} (frontEnds : ¬EndsLetters front.reverse)
    (backBegins : ¬EndsLetters back) :
    (letterRuns front).length + (letterRuns back).length
      = (letterRuns (front ++ back)).length + 1 := by
  obtain ⟨last, before, turned, lastRun, apart⟩ := exists_run_of_not_endsLetters frontEnds
  obtain ⟨first, behind, rfl, firstRun, ends⟩ := exists_run_of_not_endsLetters backBegins
  have whole : front = before.reverse ++ last.reverse := by
    rw [← List.reverse_append, ← turned, List.reverse_reverse]
  have beforeEnds : EndsLetters before.reverse.reverse := by
    rw [List.reverse_reverse]
    exact apart
  have alone : letterRuns last.reverse = [last.reverse] := by
    have single := letterRuns_append lastRun.reverse.nonempty lastRun.reverse.letters
      endsLetters_nil
    rw [List.append_nil] at single
    exact single
  have together : letterRuns (last.reverse ++ (first ++ behind))
      = (last.reverse ++ first) :: letterRuns behind := by
    rw [← List.append_assoc]
    refine letterRuns_append (List.append_ne_nil_of_right_ne_nil _ firstRun.nonempty) ?_ ends
    intro character member
    rcases List.mem_append.mp member with inLast | inFirst
    · exact lastRun.reverse.letters character inLast
    · exact firstRun.letters character inFirst
  rw [whole, List.append_assoc, letterRuns_append_of_apart (.inl beforeEnds), alone,
    letterRuns_append_of_apart (.inl beforeEnds), together,
    letterRuns_append firstRun.nonempty firstRun.letters ends]
  simp only [List.length_append, List.length_cons, List.length_nil]
  omega

/-- The words of a text are those of its parts if letters do not stand on both sides of the
cut, and otherwise the parts have one word more. -/
theorem words_append_iff (front back : Text) :
    (front ++ back).words.map Word.text
        = front.words.map Word.text ++ back.words.map Word.text ↔
      EndsLetters front.reverse ∨ EndsLetters back := by
  simp only [map_text_words]
  constructor
  · intro same
    by_contra inside
    rw [not_or] at inside
    have lengths := congrArg List.length same
    have more := length_letterRuns_of_inside inside.1 inside.2
    simp only [List.length_append, List.length_map] at lengths
    omega
  · intro apart
    rw [letterRuns_append_of_apart apart, List.map_append]

/-- Separators between two texts keep their words apart and add none. -/
theorem words_append_separators {separators : Text} (nonempty : separators ≠ [])
    (noLetters : ∀ character ∈ separators, isLetter character = false) (front back : Text) :
    (front ++ separators ++ back).words.map Word.text
      = front.words.map Word.text ++ back.words.map Word.text := by
  have begins : EndsLetters (separators ++ back) := by
    obtain ⟨character, others, rfl⟩ := List.exists_cons_of_ne_nil nonempty
    exact endsLetters_cons (noLetters character List.mem_cons_self) _
  have ends : EndsLetters separators.reverse :=
    endsLetters_of_forall fun character member =>
      noLetters character (List.mem_reverse.mp member)
  rw [List.append_assoc, (words_append_iff _ _).mpr (.inr begins),
    (words_append_iff _ _).mpr (.inl ends), map_text_words separators,
    (letterRuns_eq_nil_iff separators).mpr noLetters]
  rfl

/-! ## The scan for words -/

theorem wordsFrom_of_dropWhile_eq_nil {text : Text}
    (found : text.dropWhile (fun character => !isLetter character) = [])
    (position offset : Nat) : wordsFrom position offset text = [] := by
  rw [wordsFrom]
  split
  · rfl
  · rename_i other
    rw [found] at other
    cases other

theorem wordsFrom_of_dropWhile_eq_cons {text rest : Text} {letter : Char}
    (found : text.dropWhile (fun character => !isLetter character) = letter :: rest)
    (position offset : Nat) :
    wordsFrom position offset text =
      let start := offset + width (text.takeWhile fun character => !isLetter character)
      let run := letter :: rest.takeWhile isLetter
      ⟨lowerCase run, position, start, start + width run⟩
        :: wordsFrom (position + 1) (start + width run) (rest.dropWhile isLetter) := by
  rw [wordsFrom]
  split
  · rename_i other
    rw [found] at other
    cases other
  · rename_i other
    rw [found] at other
    cases other
    rfl

theorem wordsFrom_nil (position offset : Nat) : wordsFrom position offset [] = [] :=
  wordsFrom_of_dropWhile_eq_nil rfl position offset

/-- A separator in front moves the places of all words. -/
theorem wordsFrom_separator {character : Char} (separator : isLetter character = false)
    (position offset : Nat) (rest : Text) :
    wordsFrom position offset (character :: rest)
      = wordsFrom position (offset + character.utf8Size) rest := by
  have skipped : (!isLetter character) = true := by
    rw [separator]
    rfl
  have dropped := List.dropWhile_cons_of_pos (p := fun character => !isLetter character)
    (l := rest) skipped
  have taken := List.takeWhile_cons_of_pos (p := fun character => !isLetter character)
    (l := rest) skipped
  cases found : rest.dropWhile fun character => !isLetter character with
  | nil =>
      rw [wordsFrom_of_dropWhile_eq_nil found, wordsFrom_of_dropWhile_eq_nil]
      rw [dropped, found]
  | cons letter others =>
      rw [wordsFrom_of_dropWhile_eq_cons found,
        wordsFrom_of_dropWhile_eq_cons (dropped.trans found), taken, width_cons,
        ← Nat.add_assoc]

/-- A run of letters in front is the next word. -/
theorem wordsFrom_run {run rest : Text} (isRun : IsRun run) (ends : EndsLetters rest)
    (position offset : Nat) :
    wordsFrom position offset (run ++ rest)
      = ⟨lowerCase run, position, offset, offset + width run⟩
        :: wordsFrom (position + 1) (offset + width run) rest := by
  obtain ⟨letter, others, rfl, first, letters⟩ := isRun.exists_cons
  have kept : ¬(!isLetter letter) = true := by
    rw [first]
    decide
  have dropped := List.dropWhile_cons_of_neg (p := fun character => !isLetter character)
    (l := others ++ rest) kept
  have taken := List.takeWhile_cons_of_neg (p := fun character => !isLetter character)
    (l := others ++ rest) kept
  rw [List.cons_append, wordsFrom_of_dropWhile_eq_cons dropped, taken,
    takeWhile_isLetter_append letters ends, dropWhile_isLetter_append letters ends]
  rfl

end Concordance.Text
