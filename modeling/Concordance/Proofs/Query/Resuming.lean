import Concordance.Proofs.Query.Slices

/-!
Contract: the search for tokens from any place of a query.

The search keeps nothing but its place. At a cut between two characters it finds what the
tokens of the whole query go on with, unless the cut is inside a run of letters, of which it
then finds the rest. A place that is no cut is as good as the end of the query.

Owns:
- the offsets at which a text can be cut;
- the tokens of a text in two parts;
- one token after another, each looked for from the end of the one before it;
- what is found from each offset.

Does not own: what the tokens of the whole query cover (`Concordance.Proofs.Query.Coverage`).
-/

set_option autoImplicit false

namespace Concordance

namespace Text

/-- A byte offset between two characters, or at one of the ends. -/
def IsBorder (text : Text) (offset : Nat) : Prop :=
  ∃ before after, text = before ++ after ∧ width before = offset

theorem exists_of_dropBytes? {text after : Text} {offset : Nat}
    (found : dropBytes? offset text = some after) :
    ∃ before, text = before ++ after ∧ width before = offset := by
  fun_induction dropBytes? offset text with
  | case1 text =>
      cases found
      exact ⟨[], rfl, rfl⟩
  | case2 offset => cases found
  | case3 offset character rest fits inductionHypothesis =>
      obtain ⟨before, rfl, same⟩ := inductionHypothesis found
      exact ⟨character :: before, rfl, by rw [width_cons]; omega⟩
  | case4 offset character rest tooWide => cases found

theorem isBorder_iff (text : Text) (offset : Nat) :
    IsBorder text offset ↔ (dropBytes? offset text).isSome := by
  constructor
  · rintro ⟨before, after, rfl, rfl⟩
    rw [dropBytes?_width_append]
    rfl
  · intro found
    obtain ⟨after, found⟩ := Option.isSome_iff_exists.mp found
    obtain ⟨before, same, border⟩ := exists_of_dropBytes? found
    exact ⟨before, after, same, border⟩

instance (text : Text) (offset : Nat) : Decidable (IsBorder text offset) :=
  decidable_of_iff _ (isBorder_iff text offset).symm

theorem IsBorder.le_width {text : Text} {offset : Nat} (border : IsBorder text offset) :
    offset ≤ width text := by
  obtain ⟨before, after, rfl, rfl⟩ := border
  rw [width_append]
  exact Nat.le_add_right _ _

/-- Letters stand on both sides of a cut. -/
def InsideRun (before after : Text) : Prop := ¬EndsLetters before.reverse ∧ ¬EndsLetters after

instance (before after : Text) : Decidable (InsideRun before after) :=
  inferInstanceAs (Decidable (_ ∧ _))

theorem not_insideRun_iff (before after : Text) :
    ¬InsideRun before after ↔ EndsLetters before.reverse ∨ EndsLetters after := by
  rw [InsideRun, not_and_or, not_not, not_not]

end Text

namespace Query

open Concordance.Text (EndsLetters InsideRun IsBorder isLetter lowerCase width)

/-! ## One token after another -/

/-- The tokens found one after another, each from the end of the one before it, until there
are no more. -/
inductive ReadsOn (query : Text) : Nat → List Token → Prop where
  | finished {offset : Nat} (none : nextToken query offset = none) : ReadsOn query offset []
  | found {offset : Nat} {token : Token} {rest : List Token}
      (next : nextToken query offset = some token)
      (more : ReadsOn query token.span.stop rest) : ReadsOn query offset (token :: rest)

/-- Where the same token comes next, the same tokens follow. -/
theorem ReadsOn.congr {query : Text} {offset other : Nat} {tokens : List Token}
    (reads : ReadsOn query other tokens)
    (same : nextToken query offset = nextToken query other) : ReadsOn query offset tokens := by
  cases reads with
  | finished none => exact .finished (same.trans none)
  | found next more => exact .found (same.trans next) more

theorem head?_tokensFrom (offset : Nat) (text : Text) :
    (tokensFrom offset text).head? = (next? offset text).map (·.1) := by
  cases found : next? offset text with
  | none => rw [tokensFrom_of_none found]; rfl
  | some next => rw [tokensFrom_of_some found]; rfl

/-- From a cut on, the next token is the first one of the text behind it. -/
theorem nextToken_width_append (before after : Text) :
    nextToken (before ++ after) (width before) = (tokensFrom (width before) after).head? := by
  rw [nextToken, Text.dropBytes?_width_append, Option.bind_some, head?_tokensFrom]

/-- Looking for one token after another gives the tokens of the text behind a cut. The
induction is on that text, and the cut moves on with it. -/
theorem readsOn_tokensFrom (before after : Text) :
    ReadsOn (before ++ after) (width before) (tokensFrom (width before) after) := by
  induction after using induction_on_tokens generalizing before with
  | nil =>
      have next := nextToken_width_append before []
      rw [tokensFrom_nil] at next ⊢
      exact .finished next
  | skipped character rest passes inductionHypothesis =>
      have later := inductionHypothesis (before ++ [character])
      have next := nextToken_width_append (before ++ [character]) rest
      have moved : width (before ++ [character]) = width before + character.utf8Size := by
        simp
      rw [List.append_assoc, List.singleton_append, moved, ← passes] at later next
      exact later.congr ((nextToken_width_append before _).trans next.symm)
  | taken piece lexeme rest takes inductionHypothesis =>
      have later := inductionHypothesis (before ++ piece)
      have next := nextToken_width_append before (piece ++ rest)
      rw [List.append_assoc, Text.width_append] at later
      rw [takes.tokensFrom_append] at next ⊢
      exact .found next later

/-! ## Any offset -/

/-- The tokens that start at a cut or behind it are those of the text behind it, if no run of
letters is cut. -/
theorem filter_tokenize_append {before after : Text} (apart : ¬InsideRun before after) :
    (tokenize (before ++ after)).filter (fun token => width before ≤ token.span.start)
      = tokensFrom (width before) after := by
  rw [tokenize, tokensFrom_append ((Text.not_insideRun_iff before after).mp apart),
    Nat.zero_add, List.filter_append, List.filter_eq_nil_iff.mpr, List.filter_eq_self.mpr,
    List.nil_append]
  · intro token member
    simpa using le_start_of_mem_tokensFrom member
  · intro token member
    have covers := (inOrder_tokensFrom 0 before).covers token member
    have within := stop_le_of_mem_tokensFrom member
    simp only [decide_eq_true_eq]
    omega

/-- Inside a run of letters the next token is the rest of the run. -/
theorem nextToken_of_insideRun {before after : Text} (inside : InsideRun before after) :
    nextToken (before ++ after) (width before)
      = some ⟨.word (lowerCase (after.takeWhile isLetter)),
          ⟨width before, width before + width (after.takeWhile isLetter)⟩⟩ := by
  obtain ⟨run, rest, split, isRun, ends⟩ := Text.exists_run_of_not_endsLetters inside.2
  rw [nextToken_width_append, split, Text.takeWhile_isLetter_append isRun.letters ends,
    tokensFrom_run isRun ends, List.head?_cons]

/-- From an offset that is past the end or inside a character no token is found. From any
other offset that is not inside a run of letters, the search goes on with the tokens of the
query that start there or later, and inside a run with the rest of the run. -/
theorem nextToken_resumes (query : Text) (offset : Nat) :
    (width query < offset ∨ ¬IsBorder query offset → nextToken query offset = none) ∧
    ∀ before after, query = before ++ after → width before = offset →
      (¬InsideRun before after →
        nextToken query offset
            = (tokenize query).find? (fun token => offset ≤ token.span.start) ∧
          ReadsOn query offset
            ((tokenize query).filter fun token => offset ≤ token.span.start)) ∧
      (InsideRun before after →
        nextToken query offset
          = some ⟨.word (lowerCase (after.takeWhile isLetter)),
              ⟨offset, offset + width (after.takeWhile isLetter)⟩⟩) := by
  refine ⟨fun nowhere => ?_, ?_⟩
  · have noBorder : ¬IsBorder query offset :=
      nowhere.elim (fun past border => absurd border.le_width (Nat.not_le_of_lt past)) id
    rw [Text.isBorder_iff, Option.not_isSome_iff_eq_none] at noBorder
    rw [nextToken, noBorder, Option.bind_none]
  · rintro before after rfl rfl
    refine ⟨fun apart => ?_, nextToken_of_insideRun⟩
    rw [← List.head?_filter, filter_tokenize_append apart]
    exact ⟨nextToken_width_append before after, readsOn_tokensFrom before after⟩

/-- Offsets inside a character, past the end, inside a run of letters and behind one. -/
theorem nextToken_resumes_behind_junk :
    let query : Text := "7Ää & bc"
    ¬IsBorder query 2 ∧ nextToken query 2 = none ∧
      width query < 11 ∧ nextToken query 11 = none ∧
      InsideRun "7Ä" "ä & bc" ∧ nextToken query 3 = some ⟨.word "ä", ⟨3, 5⟩⟩ ∧
      ¬InsideRun "7Ää" " & bc" ∧ nextToken query 5 = some ⟨.symbol .and, ⟨6, 7⟩⟩ ∧
      ReadsOn query 5 [⟨.symbol .and, ⟨6, 7⟩⟩, ⟨.word "bc", ⟨8, 10⟩⟩] := by
  intro query
  have noBorder : ¬IsBorder query 2 := by decide +kernel
  have past : width query < 11 := by decide +kernel
  have inside : InsideRun "7Ä" "ä & bc" := by decide +kernel
  have apart : ¬InsideRun "7Ää" " & bc" := by decide +kernel
  obtain ⟨resumed, reads⟩ := ((nextToken_resumes query 5).2 "7Ää" " & bc" rfl rfl).1 apart
  have rest := ((nextToken_resumes query 3).2 "7Ä" "ä & bc" rfl rfl).2 inside
  refine ⟨noBorder, (nextToken_resumes query 2).1 (.inr noBorder), past,
    (nextToken_resumes query 11).1 (.inl past), inside, rest.trans (by decide +kernel), apart,
    resumed.trans (by decide +kernel), ?_⟩
  have tokens : ((tokenize query).filter fun token => 5 ≤ token.span.start)
      = [⟨.symbol .and, ⟨6, 7⟩⟩, ⟨.word "bc", ⟨8, 10⟩⟩] := by
    decide +kernel
  rw [tokens] at reads
  exact reads

end Query

end Concordance
