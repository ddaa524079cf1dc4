import Concordance.Proofs.Query.Resuming

/-!
Contract: the search for tokens moves on with every pass, and so it ends.

A pass that meets no letter behind junk leaves the search to another pass, which begins where
the junk ends: at a blank, at a symbol or at the end of the query. It has taken something off
the text all the same, since blanks and symbols in front of it would not have been junk.

Owns:
- a pass that cuts the query at byte offsets, none of which is inside a character;
- what a pass takes off the front of a text;
- the search as a loop over byte offsets, and how many passes it takes;
- how many tokens there are from each offset on.

Does not own: which tokens these are (`Concordance.Proofs.Query.Resuming`).
-/

set_option autoImplicit false

namespace Concordance

namespace Text

/-! ## Cuts further on -/

theorem dropBytes?_add {text : Text} {offset : Nat} (part rest : Text)
    (behind : dropBytes? offset text = some (part ++ rest)) :
    dropBytes? (offset + width part) text = some rest := by
  obtain ⟨before, rfl, rfl⟩ := exists_of_dropBytes? behind
  rw [← width_append, ← List.append_assoc, dropBytes?_width_append]

theorem slice?_add {text : Text} {offset : Nat} (part rest : Text)
    (behind : dropBytes? offset text = some (part ++ rest)) :
    slice? offset (offset + width part) text = some part := by
  obtain ⟨before, rfl, rfl⟩ := exists_of_dropBytes? behind
  rw [← List.append_assoc, slice?_width_append]

/-- Behind characters of one kind a text can be cut. -/
theorem dropBytes?_takeWhile {text rest : Text} {offset : Nat}
    (behind : dropBytes? offset text = some rest) (keep : Char → Bool) :
    dropBytes? (offset + width (rest.takeWhile keep)) text = some (rest.dropWhile keep) := by
  apply dropBytes?_add
  rw [List.takeWhile_append_dropWhile]
  exact behind

theorem isBorder_of_dropBytes? {text rest : Text} {offset : Nat}
    (behind : dropBytes? offset text = some rest) : IsBorder text offset := by
  rw [isBorder_iff, behind]
  rfl

end Text

namespace Query

open Concordance.Text (IsBorder isBlank isLetter lowerCase width)

/-! ## Passes by byte offsets -/

/-- How a pass goes on behind junk, by cutting the query at the ends of the letters there. -/
def afterJunkAt? (query : Text) (run : Nat) : Option Pass := do
  let behind ← query.dropBytes? run
  if behind.head?.any isLetter then
    let stop := run + width (behind.takeWhile isLetter)
    let letters ← query.slice? run stop
    return .found ⟨.word (lowerCase letters), ⟨run, stop⟩⟩ (← query.dropBytes? stop)
  else return .skipped run behind

/-- One pass from a byte offset of a query, where the query is cut anew at every place that
the pass comes to. An offset inside a character or past the end is taken for the end of the
query at the beginning; at any later cut it leaves the pass without a result. -/
def passAt? (query : Text) (offset : Nat) : Option Pass := do
  let some rest := query.dropBytes? offset | return .finished
  let start := offset + width (rest.takeWhile isBlank)
  let ahead ← query.dropBytes? start
  let some character := ahead.head? | return .finished
  match Symbol.ofChar? character with
  | some symbol =>
      let stop := start + character.utf8Size
      return .found ⟨.symbol symbol, ⟨start, stop⟩⟩ (← query.dropBytes? stop)
  | none => afterJunkAt? query (start + width (ahead.takeWhile isJunk))

theorem afterJunkAt?_of_some {query behind : Text} {run : Nat}
    (cut : query.dropBytes? run = some behind) :
    afterJunkAt? query run = some (afterJunk run behind) := by
  cases behind with
  | nil => simp [afterJunkAt?, afterJunk, cut]
  | cons first more =>
      by_cases letter : isLetter first = true
      · have letters := Text.dropBytes?_takeWhile cut isLetter
        have sliced : query.slice? run (run + width ((first :: more).takeWhile isLetter))
            = some ((first :: more).takeWhile isLetter) := by
          apply Text.slice?_add _ ((first :: more).dropWhile isLetter)
          rw [List.takeWhile_append_dropWhile]
          exact cut
        rw [List.takeWhile_cons_of_pos letter, Text.width_cons] at letters sliced
        rw [List.dropWhile_cons_of_pos letter] at letters
        simp [afterJunkAt?, afterJunk, cut, letter, letters, sliced]
      · simp [afterJunkAt?, afterJunk, cut, letter]

/-- Every cut of a pass from a border is at a border, and the pass is that over the text behind
the first one. -/
theorem passAt?_of_some {query text : Text} {offset : Nat}
    (behind : query.dropBytes? offset = some text) :
    passAt? query offset = some (pass offset text) := by
  have ahead := Text.dropBytes?_takeWhile behind isBlank
  simp only [passAt?, pass, behind, ahead, Option.pure_def, Option.bind_eq_bind, Option.bind_some]
  cases split : text.dropWhile isBlank with
  | nil => rfl
  | cons character rest =>
      rw [split] at ahead
      dsimp only [List.head?_cons]
      cases Symbol.ofChar? character with
      | some symbol =>
          have taken := Text.dropBytes?_add [character] rest ahead
          rw [Text.width_cons, Text.width_nil, Nat.add_zero] at taken
          dsimp only
          rw [taken, Option.bind_some]
      | none =>
          dsimp only
          rw [afterJunkAt?_of_some (Text.dropBytes?_takeWhile ahead isJunk)]
          cases (character :: rest).dropWhile isJunk <;> rfl

theorem passAt?_of_none {query : Text} {offset : Nat}
    (nowhere : query.dropBytes? offset = none) : passAt? query offset = some .finished := by
  simp [passAt?, nowhere]

/-! ## What a pass takes -/

/-- What a pass takes off the front of a text that begins at a byte offset: everything, if it
finds blanks only, and otherwise at least one character. -/
inductive Pass.TakesOff (offset : Nat) (text : Text) : Pass → Prop where
  | finished (blank : ∀ character ∈ text, isBlank character = true) :
      TakesOff offset text .finished
  | found {lead piece rest : Text} {lexeme : Lexeme} (whole : lead ++ (piece ++ rest) = text)
      (nonempty : piece ≠ []) :
      TakesOff offset text
        (.found ⟨lexeme, ⟨offset + width lead, offset + width lead + width piece⟩⟩ rest)
  | skipped {piece rest : Text} (whole : piece ++ rest = text) (nonempty : piece ≠ []) :
      TakesOff offset text (.skipped (offset + width piece) rest)

/-- A pass that goes on as behind junk takes what is in front of that place. -/
theorem takesOff_of_afterJunk {offset : Nat} {text lead behind : Text}
    (whole : lead ++ behind = text)
    (result : pass offset text = afterJunk (offset + width lead) behind) :
    (pass offset text).TakesOff offset text := by
  have nonempty : pass offset text = .skipped (offset + width lead) behind → lead ≠ [] := by
    rintro skipped rfl
    have shorter := length_lt_of_pass_skipped skipped
    rw [← whole, List.nil_append] at shorter
    exact absurd shorter (Nat.lt_irrefl _)
  cases behind with
  | nil =>
      rw [afterJunk] at result
      rw [result]
      exact .skipped whole (nonempty result)
  | cons first more =>
      rw [afterJunk] at result
      split at result
      · rw [result]
        refine .found ?_ (List.cons_ne_nil _ _)
        rw [List.cons_append, List.takeWhile_append_dropWhile]
        exact whole
      · rw [result]
        exact .skipped whole (nonempty result)

theorem takesOff_pass (offset : Nat) (text : Text) :
    (pass offset text).TakesOff offset text := by
  have blanks := List.takeWhile_append_dropWhile (p := isBlank) (l := text)
  cases ahead : text.dropWhile isBlank with
  | nil =>
      have result : pass offset text = .finished := by simp only [pass, ahead]
      rw [result]
      refine .finished fun character member => ?_
      rw [ahead, List.append_nil] at blanks
      rw [← blanks] at member
      exact List.all_eq_true.mp List.all_takeWhile character member
  | cons character rest =>
      rw [ahead] at blanks
      cases kind : Symbol.ofChar? character with
      | some symbol =>
          have result : pass offset text
              = .found ⟨.symbol symbol, ⟨offset + width (text.takeWhile isBlank),
                  offset + width (text.takeWhile isBlank) + width [character]⟩⟩ rest := by
            simp only [pass, ahead, kind, Text.width_cons, Text.width_nil, Nat.add_zero]
          rw [result]
          exact .found blanks (List.cons_ne_nil _ _)
      | none =>
          have junk := List.takeWhile_append_dropWhile (p := isJunk) (l := character :: rest)
          have result : pass offset text
              = afterJunk (offset + width (text.takeWhile isBlank)
                    + width ((character :: rest).takeWhile isJunk))
                  ((character :: rest).dropWhile isJunk) := by
            simp only [pass, ahead, kind]
            cases (character :: rest).dropWhile isJunk <;> rfl
          rw [Nat.add_assoc, ← Text.width_append] at result
          refine takesOff_of_afterJunk ?_ result
          rw [List.append_assoc, junk]
          exact blanks

/-- A pass ends the search where nothing but blanks is left, or finds a token of at least one byte
at borders that are not in front of it, or leaves the search at a border further on. -/
inductive Pass.MovesOn (query : Text) (offset : Nat) : Pass → Prop where
  | finished (spent : ∀ rest, query.dropBytes? offset = some rest →
      ∀ character ∈ rest, isBlank character = true) : MovesOn query offset .finished
  | found {token : Token} {rest : Text} (ahead : offset ≤ token.span.start)
      (covers : token.span.start < token.span.stop) (within : token.span.stop ≤ width query)
      (starts : IsBorder query token.span.start)
      (behind : query.dropBytes? token.span.stop = some rest) :
      MovesOn query offset (.found token rest)
  | skipped {next : Nat} {rest : Text} (further : offset < next) (within : next ≤ width query)
      (behind : query.dropBytes? next = some rest) :
      MovesOn query offset (.skipped next rest)

theorem Pass.TakesOff.movesOn {query text : Text} {offset : Nat} {pass : Pass}
    (takes : pass.TakesOff offset text) (behind : query.dropBytes? offset = some text) :
    pass.MovesOn query offset := by
  cases takes with
  | finished blank =>
      refine .finished fun rest same => ?_
      cases behind.symm.trans same
      exact blank
  | found whole nonempty =>
      rename_i lead piece rest lexeme
      rw [← whole] at behind
      have starts := Text.dropBytes?_add _ _ behind
      have stops := Text.dropBytes?_add _ _ starts
      exact .found (Nat.le_add_right _ _)
        (Nat.lt_add_of_pos_right (Text.width_pos nonempty))
        (Text.isBorder_of_dropBytes? stops).le_width (Text.isBorder_of_dropBytes? starts) stops
  | skipped whole nonempty =>
      rw [← whole] at behind
      have next := Text.dropBytes?_add _ _ behind
      exact .skipped (Nat.lt_add_of_pos_right (Text.width_pos nonempty))
        (Text.isBorder_of_dropBytes? next).le_width next

theorem exists_passAt? (query : Text) (offset : Nat) :
    ∃ pass, passAt? query offset = some pass ∧ pass.MovesOn query offset := by
  cases behind : query.dropBytes? offset with
  | none =>
      refine ⟨.finished, passAt?_of_none behind, .finished fun rest same => ?_⟩
      cases behind.symm.trans same
  | some text =>
      exact ⟨pass offset text, passAt?_of_some behind, (takesOff_pass offset text).movesOn behind⟩

/-- A token that is found in several passes is found as in a single one. The induction is on the
passes, of which all but the last one leave the search further on. -/
theorem movesOn_of_next? {query text rest : Text} {offset : Nat} {token : Token}
    (behind : query.dropBytes? offset = some text)
    (found : next? offset text = some (token, rest)) :
    (Pass.found token rest).MovesOn query offset := by
  fun_induction next? offset text with
  | case1 => cases found
  | case2 offset text _ _ result =>
      cases found
      have moves := (takesOff_pass offset text).movesOn behind
      rwa [result] at moves
  | case3 offset text next remaining result inductionHypothesis =>
      have moves := (takesOff_pass offset text).movesOn behind
      rw [result] at moves
      cases moves with
      | skipped further _ later =>
          cases inductionHypothesis later found with
          | found ahead covers within starts stops =>
              exact .found (Nat.le_of_lt (Nat.lt_of_lt_of_le further ahead)) covers within starts
                stops

theorem exists_movesOn_of_nextToken {query : Text} {offset : Nat} {token : Token}
    (found : nextToken query offset = some token) :
    ∃ rest, (Pass.found token rest).MovesOn query offset := by
  obtain ⟨text, behind, next⟩ := Option.bind_eq_some_iff.mp found
  obtain ⟨⟨_, rest⟩, result, rfl⟩ := Option.map_eq_some_iff.mp next
  exact ⟨rest, movesOn_of_next? behind result⟩

/-! ## The search as a loop -/

/-- The search for a token from a byte offset, in at most so many passes, each of which begins at
the byte offset where the one before it left the search. There is no result if a pass has none, or
if the passes do not suffice. -/
def searchWithin? (query : Text) : (passes : Nat) → (offset : Nat) → Option (Option Token)
  | 0, _ => none
  | fewer + 1, offset =>
      (passAt? query offset).bind fun
        | .finished => some none
        | .found token _ => some (some token)
        | .skipped next _ => searchWithin? query fewer next

/-- One pass more than there are characters behind the offset is always enough. The induction is
on the passes that are left, of which each takes a character. -/
theorem searchWithin?_of_lt {query text : Text} {offset passes : Nat}
    (behind : query.dropBytes? offset = some text) (enough : text.length < passes) :
    searchWithin? query passes offset = some (nextToken query offset) := by
  induction passes generalizing offset text with
  | zero => exact absurd enough (Nat.not_lt_zero _)
  | succ fewer inductionHypothesis =>
      have takes := takesOff_pass offset text
      have moves := takes.movesOn behind
      rw [searchWithin?, passAt?_of_some behind, Option.bind_some, nextToken, behind,
        Option.bind_some]
      cases result : pass offset text with
      | finished => rw [next?_of_finished result, Option.map_none]
      | found token rest => rw [next?_of_found result, Option.map_some]
      | skipped next rest =>
          have shorter := length_lt_of_pass_skipped result
          rw [result] at moves
          cases moves with
          | skipped further within later =>
              dsimp only
              rw [next?_of_skipped result, inductionHypothesis later (by omega), nextToken, later,
                Option.bind_some]

theorem length_le_of_dropBytes? {text rest : Text} {offset : Nat}
    (behind : text.dropBytes? offset = some rest) : rest.length ≤ text.length := by
  obtain ⟨before, rfl, _⟩ := Text.exists_of_dropBytes? behind
  rw [List.length_append]
  exact Nat.le_add_left _ _

theorem searchWithin?_length (query : Text) (offset : Nat) :
    searchWithin? query (query.length + 1) offset = some (nextToken query offset) := by
  cases behind : query.dropBytes? offset with
  | none =>
      rw [searchWithin?, passAt?_of_none behind, nextToken, behind]
      rfl
  | some text =>
      exact searchWithin?_of_lt behind (Nat.lt_succ_of_le (length_le_of_dropBytes? behind))

/-- Junk in front of a symbol, and at the end of the query. -/
example : passAt? "1(a %".toList 0 = some (.skipped 1 "(a %".toList) ∧
    searchWithin? "1(a %".toList 2 3 = some none := by
  decide +kernel

/-! ## How many tokens there are -/

theorem length_tokensFrom_le (offset : Nat) (text : Text) :
    (tokensFrom offset text).length ≤ text.length := by
  fun_induction tokensFrom offset text with
  | case1 => exact Nat.zero_le _
  | case2 offset text token rest found inductionHypothesis =>
      have shorter := length_lt_of_next? found
      rw [List.length_cons]
      omega

theorem ReadsOn.unique {query : Text} {offset : Nat} {tokens others : List Token}
    (reads : ReadsOn query offset tokens) (again : ReadsOn query offset others) :
    others = tokens := by
  induction reads generalizing others with
  | finished none =>
      cases again with
      | finished => rfl
      | found next more => cases none.symm.trans next
  | found next more inductionHypothesis =>
      cases again with
      | finished none => cases none.symm.trans next
      | found other later =>
          cases next.symm.trans other
          rw [inductionHypothesis later]

/-- From every offset the tokens come to an end, and there are no more of them than characters. -/
theorem exists_readsOn (query : Text) (offset : Nat) :
    ∃ tokens, ReadsOn query offset tokens ∧ tokens.length ≤ query.length ∧
      (offset = 0 → tokens = tokenize query) := by
  cases behind : query.dropBytes? offset with
  | none =>
      refine ⟨[], .finished ?_, Nat.zero_le _, ?_⟩
      · rw [nextToken, behind, Option.bind_none]
      · rintro rfl
        rw [Text.dropBytes?] at behind
        cases behind
  | some text =>
      have fewer := length_le_of_dropBytes? behind
      obtain ⟨before, rfl, rfl⟩ := Text.exists_of_dropBytes? behind
      refine ⟨_, readsOn_tokensFrom before text,
        Nat.le_trans (length_tokensFrom_le _ text) fewer, fun start => ?_⟩
      have atStart : before = [] := by
        by_contra nonempty
        exact absurd start (Nat.ne_of_gt (Text.width_pos nonempty))
      subst atStart
      rfl

/-- From any offset of any query, a pass finds every place at which it cuts the query between two
characters, and ends the search or moves it on. One pass more than there are characters always
suffices, and a token that is found ends behind the offset. So the tokens come to an end, wherever
the first one is looked for, and there are at most as many of them as characters. -/
theorem search_moves_on (query : Text) (offset : Nat) :
    (∃ pass, passAt? query offset = some pass ∧ pass.MovesOn query offset) ∧
    searchWithin? query (query.length + 1) offset = some (nextToken query offset) ∧
    (∀ token, nextToken query offset = some token →
      offset < token.span.stop ∧ offset ≤ token.span.start ∧
        IsBorder query token.span.start ∧ IsBorder query token.span.stop) ∧
    ∃ tokens, ReadsOn query offset tokens ∧
      (∀ others, ReadsOn query offset others → others = tokens) ∧
      tokens.length ≤ query.length ∧ (offset = 0 → tokens = tokenize query) := by
  refine ⟨exists_passAt? query offset, searchWithin?_length query offset,
    fun token found => ?_, ?_⟩
  · obtain ⟨rest, moves⟩ := exists_movesOn_of_nextToken found
    cases moves with
    | found ahead covers within starts behind =>
        exact ⟨Nat.lt_of_le_of_lt ahead covers, ahead, starts,
          Text.isBorder_of_dropBytes? behind⟩
  · obtain ⟨tokens, reads, fewer, whole⟩ := exists_readsOn query offset
    exact ⟨tokens, reads, fun _ again => reads.unique again, fewer, whole⟩

end Query

end Concordance
