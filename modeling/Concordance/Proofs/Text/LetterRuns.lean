import Concordance.Text.Word

/-!
Contract: the words of a text are its maximal runs of letters, in lower case.

Owns:
- the maximal runs of letters, which stand between the separators of a text;
- that the scan for words finds these runs.

Does not own: where the words stand in the text.
-/

set_option autoImplicit false

namespace Concordance.Text

/-- The maximal runs of letters of a text: what stands between its other characters,
where anything does. -/
def letterRuns (text : Text) : List Text :=
  (text.splitOnP fun character => !isLetter character).filter fun run => !run.isEmpty

theorem letterRuns_cons {character : Char} (separator : isLetter character = false)
    (rest : Text) : letterRuns (character :: rest) = letterRuns rest := by
  have refused : (!isLetter character) = true := by
    rw [separator]
    rfl
  have split := List.splitOnP_append_cons (p := fun character => !isLetter character) []
    rest refused
  rw [List.nil_append, List.splitOnP_nil, List.singleton_append] at split
  rw [letterRuns, split]
  rfl

/-- A text that begins with letters up to a separator or its end begins with a run. -/
theorem letterRuns_append {run rest : Text} (nonempty : run ≠ [])
    (letters : ∀ character ∈ run, isLetter character = true)
    (ends : ∀ character ∈ rest.head?, isLetter character = false) :
    letterRuns (run ++ rest) = run :: letterRuns rest := by
  have inside : ∀ character ∈ run, (!isLetter character) = false := by
    intro character member
    rw [letters character member]
    rfl
  have kept : [run].filter (fun run => !run.isEmpty) = [run] := by
    rw [List.filter_cons_of_pos (by rw [List.isEmpty_eq_false_iff.mpr nonempty]; rfl)]
    rfl
  cases rest with
  | nil =>
      rw [List.append_nil, letterRuns, List.splitOnP_eq_singleton inside, kept]
      rfl
  | cons separator rest =>
      have outside : isLetter separator = false := ends separator rfl
      rw [letterRuns_cons outside, letterRuns,
        List.splitOnP_append_cons _ _ (by rw [outside]; rfl),
        List.splitOnP_eq_singleton inside, List.filter_append, kept]
      rfl

theorem letterRuns_dropWhile (text : Text) :
    letterRuns (text.dropWhile fun character => !isLetter character) = letterRuns text := by
  induction text with
  | nil => rfl
  | cons character rest inductionHypothesis =>
      cases letter : isLetter character with
      | true => rw [List.dropWhile_cons_of_neg (by rw [letter]; decide)]
      | false =>
          rw [List.dropWhile_cons_of_pos (by rw [letter]; rfl), inductionHypothesis,
            letterRuns_cons letter]

/-- The scan for words cuts one run off the front in each step. -/
theorem map_text_wordsFrom (position offset : Nat) (text : Text) :
    (wordsFrom position offset text).map Word.text = (letterRuns text).map lowerCase := by
  fun_induction wordsFrom position offset text with
  | case1 position offset text found =>
      rw [← letterRuns_dropWhile, found]
      rfl
  | case2 position offset text letter rest found start run stop inductionHypothesis =>
      have first : isLetter letter = true := by
        have head := List.head?_dropWhile_not (fun character => !isLetter character) text
        rw [found] at head
        simpa using head
      have letters : ∀ character ∈ run, isLetter character = true := by
        intro character member
        rcases List.mem_cons.mp member with rfl | member
        · exact first
        · exact List.all_eq_true.mp List.all_takeWhile character member
      have ends : ∀ character ∈ (rest.dropWhile isLetter).head?,
          isLetter character = false := by
        intro character member
        have head := List.head?_dropWhile_not isLetter rest
        rw [Option.mem_def.mp member] at head
        simpa using head
      have cut : letter :: rest = run ++ rest.dropWhile isLetter := by
        rw [List.cons_append, List.takeWhile_append_dropWhile]
      rw [← letterRuns_dropWhile text, found, cut,
        letterRuns_append (List.cons_ne_nil _ _) letters ends, List.map_cons, List.map_cons,
        inductionHypothesis]

theorem map_text_words (text : Text) :
    (words text).map Word.text = (letterRuns text).map lowerCase :=
  map_text_wordsFrom 0 0 text

theorem length_words (text : Text) : text.words.length = (letterRuns text).length := by
  rw [← List.length_map, map_text_words, List.length_map]

end Concordance.Text
