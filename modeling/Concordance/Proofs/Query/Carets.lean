import Concordance.Command.Run
import Concordance.Proofs.Query.Places
import Concordance.Proofs.Query.Resuming

/-!
Contract: a refused query is shown with carets under the part it is refused for.

The parser makes up no places. It points at a token that it was given, at two tokens next to
each other, or at the end of the last one, and the tokens of a query begin and end between
characters. So there is a part of the query to put carets under, and no place is left for a
span that would be shown at the beginning of the line or with a width of its own.

Owns:
- what the errors of a token list can point at;
- the parts of a query that its errors point at;
- the line of carets under such a part, and refused queries as users see them.

Does not own: which token is refused for which cause (`Concordance.Proofs.Query.Refusals`).
-/

set_option autoImplicit false

namespace Concordance.Query

open Concordance.Text (IsBorder width)

/-! ## Places among tokens -/

/-- What an error can point at: the end, a token, or two tokens next to each other, such as
the quotes of an empty phrase. -/
inductive PointsInto (finish : Option Span) (tokens : List Token) : Option Span → Prop where
  | atEnd : PointsInto finish tokens finish
  | atToken {token : Token} (member : token ∈ tokens) :
      PointsInto finish tokens (some token.span)
  | atPair {first second : Token} (adjacent : [first, second] <:+: tokens) :
      PointsInto finish tokens (some (first.span.join second.span))

section PointsInto

variable {limit depth : Nat} {finish : Option Span} {tokens others : List Token}
  {error : ParseError}

theorem PointsInto.mono {span : Option Span} (points : PointsInto finish tokens span)
    (within : tokens <:+: others) : PointsInto finish others span := by
  cases points with
  | atEnd => exact .atEnd
  | atToken member => exact .atToken (within.subset member)
  | atPair adjacent => exact .atPair (adjacent.trans within)

theorem PointsInto.cons {span : Option Span} (points : PointsInto finish tokens span)
    (token : Token) : PointsInto finish (token :: tokens) span :=
  points.mono (List.suffix_cons token tokens).isInfix

theorem phrase?_pointsInto {quote : Token} (refused : phrase? quote tokens = .error error) :
    PointsInto finish (quote :: tokens) error.span := by
  obtain ⟨split, _⟩ := leadingWords_split tokens
  unfold phrase? at refused
  split at refused
  · cases refused
    exact .atToken List.mem_cons_self
  · rename_i close rest after
    rw [after] at split
    split at refused
    · split at refused
      · rename_i empty
        cases refused
        rw [empty, List.map_nil, List.nil_append] at split
        rw [split]
        exact .atPair (List.prefix_append [quote, close] rest).isInfix
      · cases refused
    · cases refused
      rw [split]
      exact .atToken (List.mem_cons_of_mem _ (List.mem_append_right _ List.mem_cons_self))

/-- The cases are the branches of the parser. What stands behind an accepted expression is the
end of the tokens in front of it. -/
theorem expression?_pointsInto (refused : expression? limit finish depth tokens = .error error) :
    PointsInto finish tokens error.span := by
  fun_induction expression? limit finish depth tokens with
  | case1 depth =>
      cases refused
      exact .atEnd
  | case2 | case8 | case11 | case14 =>
      cases refused
      exact .atToken List.mem_cons_self
  | case3 | case6 | case12 => cases refused
  | case4 depth token rest shallow lexeme => exact phrase?_pointsInto refused
  | case5 depth token rest shallow lexeme problem failed inductionHypothesis
  | case7 depth token rest shallow lexeme problem failed inductionHypothesis =>
      cases refused
      exact (inductionHypothesis failed).cons token
  | case9 depth token rest shallow lexeme left parsedLeft operator following afterLeft
      notConnective leftHypothesis =>
      cases refused
      have behind := expression?_suffix parsedLeft
      rw [afterLeft] at behind
      exact .atToken (List.mem_cons_of_mem _ (behind.subset List.mem_cons_self))
  | case10 depth token rest shallow lexeme left parsedLeft operator following afterLeft
      connective joined problem failed leftHypothesis rightHypothesis =>
      cases refused
      have behind := expression?_suffix parsedLeft
      rw [afterLeft] at behind
      exact (((rightHypothesis failed).cons operator).mono behind.isInfix).cons token
  | case13 depth token rest shallow lexeme left parsedLeft operator following afterLeft
      connective joined right parsedRight close remaining afterRight notClosing
      leftHypothesis rightHypothesis =>
      cases refused
      have behind := expression?_suffix parsedLeft
      have behindRight := expression?_suffix parsedRight
      rw [afterLeft] at behind
      rw [afterRight] at behindRight
      have member : close ∈ following := behindRight.subset List.mem_cons_self
      exact .atToken
        (List.mem_cons_of_mem _ (behind.subset (List.mem_cons_of_mem _ member)))

theorem parseTokens_pointsInto (nonempty : tokens ≠ [])
    (refused : parseTokens limit tokens = .error error) :
    PointsInto (finishSpan tokens) tokens error.span := by
  obtain ⟨first, others, rfl⟩ := List.exists_cons_of_ne_nil nonempty
  rw [parseTokens] at refused
  split at refused
  · rename_i failed
    cases refused
    exact expression?_pointsInto failed
  · rename_i parsed found
    split at refused
    · cases refused
    · rename_i extra following behind
      cases refused
      have suffix := expression?_suffix found
      rw [behind] at suffix
      exact .atToken (suffix.subset List.mem_cons_self)

end PointsInto

/-! ## Parts of a query -/

/-- The span reaches from the end of `before` to the end of `covered`. -/
def spanBehind (before covered : Text) : Span := ⟨width before, width before + width covered⟩

/-- Tokens of a query that stand next to each other cover a part of it. -/
theorem exists_part_of_covers {query : Text} {part : List Token} {span : Span}
    (inside : part <:+: tokenize query) (covers : Covers span part) :
    ∃ before covered after, query = before ++ covered ++ after ∧
      span = spanBehind before covered := by
  obtain ⟨front, rest, split⟩ := inside
  obtain ⟨first, last, head, tail, rfl⟩ := covers
  have nonempty : part ≠ [] := by
    rintro rfl
    cases head
  obtain ⟨before, covered, after, whole, _, starts, stops⟩ := exists_part split.symm nonempty
  rw [Nat.zero_add] at starts stops
  refine ⟨before, covered, after, whole, ?_⟩
  rw [spanBehind, starts first head, stops last tail]

/-- What a refusal points at is a part of the query. -/
theorem PointsInto.exists_part {query : Text} {span : Option Span}
    (nonempty : tokenize query ≠ [])
    (points : PointsInto (finishSpan (tokenize query)) (tokenize query) span) :
    ∃ before covered after, query = before ++ covered ++ after ∧
      span = some (spanBehind before covered) := by
  cases points with
  | atEnd =>
      -- The place at the end is the empty part behind the last token.
      obtain ⟨front, last, split⟩ := (List.eq_nil_or_concat' (tokenize query)).resolve_left nonempty
      have inside : [last] <:+: tokenize query := ⟨front, [], by rw [split, List.append_nil]⟩
      obtain ⟨before, covered, after, whole, same⟩ :=
        exists_part_of_covers inside ⟨last, last, rfl, rfl, rfl⟩
      refine ⟨before ++ covered, [], after, ?_, ?_⟩
      · rw [List.append_nil, whole]
      · rw [finishSpan, split, List.getLast?_concat, Option.map_some, spanBehind,
          Text.width_append, Text.width_nil, Nat.add_zero]
        rw [spanBehind, Span.mk.injEq] at same
        rw [same.2]
  | @atToken token member =>
      obtain ⟨front, rest, split⟩ := List.append_of_mem member
      have inside : [token] <:+: tokenize query := ⟨front, rest, by rw [split]; simp⟩
      obtain ⟨before, covered, after, whole, same⟩ :=
        exists_part_of_covers inside ⟨token, token, rfl, rfl, rfl⟩
      exact ⟨before, covered, after, whole, congrArg some same⟩
  | @atPair first second adjacent =>
      have ordered : InOrder [first, second] :=
        (inOrder_tokensFrom 0 query).sublist adjacent.sublist
      have covers : Covers (first.span.join second.span) ([first] ++ [second]) :=
        Covers.concat ordered ⟨first, first, rfl, rfl, rfl⟩
      obtain ⟨before, covered, after, whole, same⟩ := exists_part_of_covers adjacent covers
      exact ⟨before, covered, after, whole, congrArg some same⟩

/-! ## Carets under a part -/

/-- The span is that of a part of the query, and the carets stand under this part: there are
as many blanks as characters in front of it, and as many carets as characters in it, but at
least one. -/
structure Span.IsShownUnder (query : Text) (span : Span) : Prop where
  ordered : span.start ≤ span.stop
  inside : span.stop ≤ width query
  starts : IsBorder query span.start
  stops : IsBorder query span.stop
  carets : ∃ before covered, query.slice? 0 span.start = some before ∧
    query.slice? span.start span.stop = some covered ∧
    span.caretLine query
      = List.replicate before.length ' ' ++ List.replicate (max covered.length 1) '^'

theorem isShownUnder_spanBehind (before covered after : Text) :
    (spanBehind before covered).IsShownUnder (before ++ covered ++ after) := by
  have stops : IsBorder (before ++ covered ++ after) (width before + width covered) :=
    ⟨before ++ covered, after, rfl, Text.width_append before covered⟩
  have front : Text.slice? 0 (width before) (before ++ covered ++ after) = some before := by
    have empty := Text.slice?_width_append [] before (covered ++ after)
    rwa [Text.width_nil, Nat.zero_add, List.nil_append, ← List.append_assoc] at empty
  have part := Text.slice?_width_append before covered after
  refine ⟨Nat.le_add_right _ _, stops.le_width, ?_, stops, before, covered, front, part, ?_⟩
  · exact ⟨before, covered ++ after, List.append_assoc _ _ _, rfl⟩
  · rw [Span.caretLine, spanBehind, front, part]
    rfl

/-! ## Refused queries -/

theorem parseTokens_nil (limit : Nat) : parseTokens limit [] = .error ⟨.emptyQuery, none⟩ := rfl

theorem annotate_ofParseError (query : Text) (error : ParseError) :
    ∃ message, Command.annotate query (.ofParseError error) = .parse message error.span := by
  obtain ⟨problem, span⟩ := error
  cases span with
  | none => exact ⟨_, rfl⟩
  | some span => exact ⟨_, rfl⟩

/-- A query is accepted, or refused with an error of parsing, which keeps its span when it is
shown. There is a span as soon as the query has a token, and it is that of a part of the query
with the carets under it. -/
theorem parse_accepted_or_shown (limit : Nat) (query : Text) :
    (∃ tree, parse limit query = .ok tree ∧ Command.readQuery limit query = .ok tree) ∨
      ∃ error message, parse limit query = .error error ∧
        Command.readQuery limit query = .error (.parse message error.span) ∧
        (error.span = none ↔ tokenize query = []) ∧
        ∀ span ∈ error.span, span.IsShownUnder query := by
  cases outcome : parse limit query with
  | ok tree =>
      refine .inl ⟨tree, rfl, ?_⟩
      rw [Command.readQuery, outcome]
  | error error =>
      obtain ⟨message, annotated⟩ := annotate_ofParseError query error
      refine .inr ⟨error, message, rfl, ?_, ?_⟩
      · rw [Command.readQuery, outcome]
        exact congrArg Except.error annotated
      · rw [parse] at outcome
        by_cases nonempty : tokenize query = []
        · rw [nonempty, parseTokens_nil, Except.error.injEq] at outcome
          subst outcome
          refine ⟨iff_of_true rfl nonempty, ?_⟩
          rintro span ⟨⟩
        · obtain ⟨before, covered, after, rfl, points⟩ :=
            (parseTokens_pointsInto nonempty outcome).exists_part nonempty
          rw [points]
          refine ⟨iff_of_false nofun nonempty, ?_⟩
          rintro span ⟨⟩
          exact isShownUnder_spanBehind before covered after

/-- The quotes of an empty phrase, behind a character of two bytes. -/
example : parse 4 "(ä | \"\"" = .error ⟨.emptyPhrase, some ⟨6, 8⟩⟩ ∧
    Span.caretLine "(ä | \"\"" ⟨6, 8⟩ = "     ^^" := by decide +kernel

end Concordance.Query
