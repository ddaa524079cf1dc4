import Concordance.Proofs.Query.Slices
import Mathlib.Data.List.Pairwise

/-!
Contract: what the tokens of a query cover.

Tokens stand behind each other, each cut out of the query from one character to another: a
symbol, or a run of letters that is nowhere longer. Nothing that could be a token is left
between them. Only one list of tokens is like this.

Owns:
- pieces of a text and the lexemes that they are;
- the conditions on the tokens of a query;
- that the tokens of a query are the only ones that meet them.

Does not own: the search for tokens from other places (`Concordance.Proofs.Query.Resuming`).
-/

set_option autoImplicit false

namespace Concordance

namespace Text

/-- A character of a text in two parts stands in the first part or in the second. -/
theorem append_eq_append_cons {left right front behind : Text} {character : Char}
    (same : left ++ right = front ++ character :: behind) :
    (∃ inside, left = front ++ character :: inside ∧ behind = inside ++ right) ∨
      ∃ later, front = left ++ later ∧ right = later ++ character :: behind := by
  rcases List.append_eq_append_iff.mp same with ⟨later, front, right⟩ | ⟨inside, left, rest⟩
  · exact .inr ⟨later, front, right⟩
  · cases inside with
    | nil => exact .inr ⟨[], by rw [left, List.append_nil, List.append_nil], rest.symm⟩
    | cons first others =>
        obtain ⟨rfl, behind⟩ := List.cons.inj rest
        exact .inl ⟨others, left, behind⟩

/-- A run of letters and what stands behind it are known from the whole. -/
theorem letters_append_inj {run other rest more : Text}
    (letters : ∀ character ∈ run, isLetter character = true)
    (otherLetters : ∀ character ∈ other, isLetter character = true)
    (ends : EndsLetters rest) (otherEnds : EndsLetters more)
    (same : run ++ rest = other ++ more) : run = other ∧ rest = more := by
  have taken := congrArg (List.takeWhile isLetter) same
  have dropped := congrArg (List.dropWhile isLetter) same
  rw [takeWhile_isLetter_append letters ends, takeWhile_isLetter_append otherLetters otherEnds]
    at taken
  rw [dropWhile_isLetter_append letters ends, dropWhile_isLetter_append otherLetters otherEnds]
    at dropped
  exact ⟨taken, dropped⟩

/-- The same from the other end. -/
theorem append_letters_inj {run other front before : Text}
    (letters : ∀ character ∈ run, isLetter character = true)
    (otherLetters : ∀ character ∈ other, isLetter character = true)
    (begins : EndsLetters front.reverse) (otherBegins : EndsLetters before.reverse)
    (same : front ++ run = before ++ other) : front = before ∧ run = other := by
  have backwards := congrArg List.reverse same
  rw [List.reverse_append, List.reverse_append] at backwards
  obtain ⟨runs, fronts⟩ := letters_append_inj (by simpa using letters) (by simpa using otherLetters)
    begins otherBegins backwards
  exact ⟨List.reverse_injective fronts, List.reverse_injective runs⟩

end Text

namespace Query

open Concordance.Text (EndsLetters IsRun isLetter lowerCase width)

/-! ## Places -/

/-- The span holds the byte with this number. -/
def Span.Holds (span : Span) (place : Nat) : Prop := span.start ≤ place ∧ place < span.stop

/-- A piece of a text that holds the first byte of a character holds the character. -/
theorem exists_split_of_holds {before piece after front behind : Text} {character : Char}
    (same : before ++ piece ++ after = front ++ character :: behind)
    (holds : Span.Holds ⟨width before, width before + width piece⟩ (width front)) :
    ∃ left right, front = before ++ left ∧ piece = left ++ character :: right ∧
      behind = right ++ after := by
  have above : width before ≤ width front := holds.1
  have below : width front < width before + width piece := holds.2
  rcases Text.append_eq_append_cons same with ⟨right, whole, rfl⟩ | ⟨later, rfl, _⟩
  · rcases Text.append_eq_append_cons whole with ⟨more, rfl, _⟩ | ⟨left, frontSame, pieceSame⟩
    · -- The character would stand in front of the piece.
      have positive := character.utf8Size_pos
      rw [Text.width_append, Text.width_cons] at above
      omega
    · exact ⟨left, right, frontSame, pieceSame, rfl⟩
  · -- The character would stand behind the piece.
    rw [Text.width_append, Text.width_append] at below
    omega

namespace InOrder

variable {tokens : List Token}

theorem ne (ordered : InOrder tokens) {first second : Token} (member : first ∈ tokens)
    (behind : first.span.stop ≤ second.span.start) : first ≠ second := by
  rintro rfl
  exact absurd (ordered.covers first member) (Nat.not_lt_of_le behind)

theorem nodup (ordered : InOrder tokens) : tokens.Nodup :=
  ordered.apart.imp_of_mem fun member _ behind => ordered.ne member behind

/-- No two tokens hold the same place. -/
theorem eq_of_holds (ordered : InOrder tokens) {first second : Token} {place : Nat}
    (member : first ∈ tokens) (secondMember : second ∈ tokens)
    (holds : first.span.Holds place) (secondHolds : second.span.Holds place) :
    first = second := by
  by_contra different
  have symmetric : Std.Symm fun first second : Token =>
      first.span.stop ≤ second.span.start ∨ second.span.stop ≤ first.span.start :=
    ⟨fun _ _ => Or.symm⟩
  have apart : tokens.Pairwise fun first second : Token =>
      first.span.stop ≤ second.span.start ∨ second.span.stop ≤ first.span.start :=
    ordered.apart.imp Or.inl
  have either := apart.forall member secondMember different
  obtain ⟨above, below⟩ := holds
  obtain ⟨secondAbove, secondBelow⟩ := secondHolds
  omega

/-- Tokens in order are known from their members. -/
theorem ext {others : List Token} (ordered : InOrder tokens) (othersOrdered : InOrder others)
    (same : ∀ token, token ∈ tokens ↔ token ∈ others) : tokens = others := by
  have permuted := (List.perm_ext_iff_of_nodup ordered.nodup othersOrdered.nodup).mpr same
  refine permuted.eq_of_pairwise ?_ ordered.apart othersOrdered.apart
  intro first second member _ behind before
  have covers := ordered.covers first member
  have secondCovers := othersOrdered.covers second ‹_›
  omega

end InOrder

/-! ## Pieces of a text -/

/-- Letters and symbols make up tokens. All other characters are passed over. -/
def IsTokenChar (character : Char) : Prop :=
  isLetter character = true ∨ ∃ symbol : Symbol, character = symbol.char

/-- What a piece of a text is, between two others: a symbol, or the lower-case form of a run
of letters that goes on neither in front nor behind. -/
inductive LexemeAt (before after : Text) : Text → Lexeme → Prop where
  | symbol (symbol : Symbol) : LexemeAt before after [symbol.char] (.symbol symbol)
  | word {run : Text} (isRun : IsRun run) (begins : EndsLetters before.reverse)
      (ends : EndsLetters after) : LexemeAt before after run (.word (lowerCase run))

namespace LexemeAt

variable {before after piece left right : Text} {character : Char} {lexeme : Lexeme}

theorem ne_nil (isLexeme : LexemeAt before after piece lexeme) : piece ≠ [] := by
  cases isLexeme with
  | symbol symbol => exact List.cons_ne_nil _ _
  | word isRun begins ends => exact isRun.nonempty

theorem isTokenChar (isLexeme : LexemeAt before after piece lexeme)
    (member : character ∈ piece) : IsTokenChar character := by
  cases isLexeme with
  | symbol symbol => exact .inr ⟨symbol, List.mem_singleton.mp member⟩
  | word isRun begins ends => exact .inl (isRun.letters character member)

/-- A piece around a symbol is the symbol alone, and all of a piece around a letter are
letters. -/
theorem around (isLexeme : LexemeAt before after piece lexeme)
    (here : piece = left ++ character :: right) :
    (∃ symbol : Symbol, character = symbol.char ∧ left = [] ∧ right = [] ∧
        lexeme = .symbol symbol) ∨
      (isLetter character = true ∧ (∀ letter ∈ left, isLetter letter = true) ∧
        (∀ letter ∈ right, isLetter letter = true) ∧ EndsLetters before.reverse ∧
        EndsLetters after ∧ lexeme = .word (lowerCase piece)) := by
  cases isLexeme with
  | symbol symbol =>
      cases left with
      | nil =>
          obtain ⟨same, behind⟩ := List.cons.inj here
          exact .inl ⟨symbol, same.symm, rfl, behind.symm, rfl⟩
      | cons head others => simp at here
  | word isRun begins ends =>
      have letters := isRun.letters
      rw [here, List.forall_mem_append, List.forall_mem_cons] at letters
      exact .inr ⟨letters.2.1, letters.1, letters.2.2, begins, ends, rfl⟩

/-- A text has one piece around a character. -/
theorem unique {otherBefore otherAfter otherPiece otherLeft otherRight : Text}
    {other : Lexeme} (isLexeme : LexemeAt before after piece lexeme)
    (isOther : LexemeAt otherBefore otherAfter otherPiece other)
    (here : piece = left ++ character :: right)
    (there : otherPiece = otherLeft ++ character :: otherRight)
    (front : before ++ left = otherBefore ++ otherLeft)
    (behind : right ++ after = otherRight ++ otherAfter) :
    before = otherBefore ∧ piece = otherPiece ∧ lexeme = other := by
  rcases isLexeme.around here with ⟨symbol, rfl, rfl, rfl, rfl⟩ |
      ⟨letter, letters, more, begins, ends, rfl⟩ <;>
    rcases isOther.around there with ⟨otherSymbol, same, rfl, rfl, rfl⟩ |
      ⟨otherLetter, otherLetters, otherMore, otherBegins, otherEnds, rfl⟩
  · have sameSymbol := congrArg Symbol.ofChar? same
    rw [Symbol.ofChar?_char, Symbol.ofChar?_char, Option.some.injEq] at sameSymbol
    rw [List.append_nil, List.append_nil] at front
    exact ⟨front, here.trans there.symm, by rw [sameSymbol]⟩
  · rw [symbol.isLetter_char] at otherLetter
    cases otherLetter
  · rw [same, otherSymbol.isLetter_char] at letter
    cases letter
  · obtain ⟨rfl, rfl⟩ := Text.append_letters_inj letters otherLetters begins otherBegins front
    obtain ⟨rfl, rfl⟩ := Text.letters_append_inj more otherMore ends otherEnds behind
    rw [here, there]
    exact ⟨rfl, rfl, rfl⟩

end LexemeAt

/-- A token is cut out of a query: it reaches from one character to another, and stands for
what the piece between them is. -/
def Token.IsCutFrom (query : Text) (token : Token) : Prop :=
  ∃ before piece after, query = before ++ piece ++ after ∧
    token.span = ⟨width before, width before + width piece⟩ ∧
    LexemeAt before after piece token.lexeme

namespace Token.IsCutFrom

variable {query front behind : Text} {token other : Token} {character : Char}

/-- Tokens hold letters and symbols only. -/
theorem isTokenChar (cut : token.IsCutFrom query)
    (here : query = front ++ character :: behind) (holds : token.span.Holds (width front)) :
    IsTokenChar character := by
  obtain ⟨before, piece, after, split, span, isLexeme⟩ := cut
  rw [span] at holds
  obtain ⟨left, right, _, rfl, _⟩ := exists_split_of_holds (split.symm.trans here) holds
  exact isLexeme.isTokenChar (List.mem_append_right _ List.mem_cons_self)

/-- A query has one token to cut out around a character. -/
theorem unique (cut : token.IsCutFrom query) (otherCut : other.IsCutFrom query)
    (here : query = front ++ character :: behind) (holds : token.span.Holds (width front))
    (otherHolds : other.span.Holds (width front)) : token = other := by
  obtain ⟨before, piece, after, split, span, isLexeme⟩ := cut
  obtain ⟨otherBefore, otherPiece, otherAfter, otherSplit, otherSpan, otherLexeme⟩ := otherCut
  rw [span] at holds
  rw [otherSpan] at otherHolds
  obtain ⟨left, right, frontSame, pieceSame, behindSame⟩ :=
    exists_split_of_holds (split.symm.trans here) holds
  obtain ⟨otherLeft, otherRight, otherFront, otherPieceSame, otherBehind⟩ :=
    exists_split_of_holds (otherSplit.symm.trans here) otherHolds
  obtain ⟨rfl, rfl, lexeme⟩ := isLexeme.unique otherLexeme pieceSame otherPieceSame
    (frontSame.symm.trans otherFront) (behindSame.symm.trans otherBehind)
  cases token
  cases other
  exact congrArg₂ Token.mk lexeme (span.trans otherSpan.symm)

/-- The span of a token holds the first byte of a character of the query. -/
theorem exists_holds (cut : token.IsCutFrom query) :
    ∃ front character behind, query = front ++ character :: behind ∧
      token.span.Holds (width front) := by
  obtain ⟨before, piece, after, rfl, span, isLexeme⟩ := cut
  obtain ⟨character, rest, rfl⟩ := List.exists_cons_of_ne_nil isLexeme.ne_nil
  refine ⟨before, character, rest ++ after, by simp, ?_⟩
  rw [span]
  exact ⟨Nat.le_refl _, Nat.lt_add_of_pos_right (Text.width_pos isLexeme.ne_nil)⟩

end Token.IsCutFrom

/-! ## Tokens of a query -/

/-- Tokens that follow each other and are cut out of the query, and pass over no letter and
no symbol. -/
structure IsTokenized (query : Text) (tokens : List Token) : Prop where
  ordered : InOrder tokens
  cut : ∀ token ∈ tokens, token.IsCutFrom query
  once : ∀ before character after, query = before ++ character :: after →
    IsTokenChar character → ∃! token, token ∈ tokens ∧ token.span.Holds (width before)
  apart : ∀ before character after, query = before ++ character :: after →
    ¬IsTokenChar character → ∀ token ∈ tokens, ¬token.span.Holds (width before)

namespace IsTokenized

variable {query : Text} {tokens others : List Token}

theorem subset (tokenized : IsTokenized query tokens) (other : IsTokenized query others) :
    ∀ token ∈ tokens, token ∈ others := by
  intro token member
  have cut := tokenized.cut token member
  obtain ⟨front, character, behind, here, holds⟩ := cut.exists_holds
  obtain ⟨found, ⟨foundMember, foundHolds⟩, _⟩ :=
    other.once front character behind here (cut.isTokenChar here holds)
  rw [cut.unique (other.cut found foundMember) here holds foundHolds]
  exact foundMember

/-- No two lists of tokens of a query meet the conditions. -/
theorem unique (tokenized : IsTokenized query tokens) (other : IsTokenized query others) :
    tokens = others :=
  tokenized.ordered.ext other.ordered fun token =>
    ⟨tokenized.subset other token, other.subset tokenized token⟩

end IsTokenized

/-! ## The search for tokens -/

/-- The tokens of the rest of a text are cut out of the whole if the rest does not begin
inside a run of letters. -/
theorem isCutFrom_of_mem_tokensFrom {before text : Text} {token : Token}
    (apart : EndsLetters before.reverse ∨ EndsLetters text)
    (member : token ∈ tokensFrom (width before) text) : token.IsCutFrom (before ++ text) := by
  induction text using Text.induction_on_runs generalizing before with
  | nil =>
      rw [tokensFrom_nil] at member
      cases member
  | separator character rest separator inductionHypothesis =>
      have passed : token ∈ tokensFrom (width before + character.utf8Size) rest →
          token.IsCutFrom (before ++ character :: rest) := by
        intro later
        have next : width (before ++ [character]) = width before + character.utf8Size := by
          simp
        rw [← next] at later
        have ends : EndsLetters (before ++ [character]).reverse := by
          rw [List.reverse_append]
          exact Text.endsLetters_cons separator _
        have cut := inductionHypothesis (.inl ends) later
        rw [List.append_assoc] at cut
        exact cut
      cases found : Symbol.ofChar? character with
      | none =>
          rw [tokensFrom_separator separator found] at member
          exact passed member
      | some symbol =>
          rw [tokensFrom_symbol found] at member
          rcases List.mem_cons.mp member with rfl | later
          · obtain rfl := Symbol.eq_char_of_ofChar? found
            exact ⟨before, [symbol.char], rest, by simp, by simp, .symbol symbol⟩
          · exact passed later
  | run run rest isRun ends inductionHypothesis =>
      rw [tokensFrom_run isRun ends] at member
      rcases List.mem_cons.mp member with rfl | later
      · have begins := apart.resolve_right (isRun.not_endsLetters rest)
        exact ⟨before, run, rest, by simp, rfl, .word isRun begins ends⟩
      · rw [← Text.width_append] at later
        have cut := inductionHypothesis (.inr ends) later
        rw [List.append_assoc] at cut
        exact cut

theorem mem_tokensFrom_cons {character : Char} (separator : isLetter character = false)
    {offset : Nat} {rest : Text} {token : Token}
    (member : token ∈ tokensFrom (offset + character.utf8Size) rest) :
    token ∈ tokensFrom offset (character :: rest) := by
  cases found : Symbol.ofChar? character with
  | none =>
      rw [tokensFrom_separator separator found]
      exact member
  | some symbol =>
      rw [tokensFrom_symbol found]
      exact List.mem_cons_of_mem _ member

/-- No letter and no symbol is passed over. -/
theorem exists_holds_of_isTokenChar (offset : Nat) {text front behind : Text}
    {character : Char} (here : text = front ++ character :: behind)
    (isTokenChar : IsTokenChar character) :
    ∃ token ∈ tokensFrom offset text, token.span.Holds (offset + width front) := by
  induction text using Text.induction_on_runs generalizing offset front with
  | nil => simp at here
  | separator first rest separator inductionHypothesis =>
      cases front with
      | nil =>
          obtain ⟨rfl, rfl⟩ := List.cons.inj here
          rcases isTokenChar with letter | ⟨symbol, rfl⟩
          · rw [separator] at letter
            cases letter
          · rw [tokensFrom_symbol symbol.ofChar?_char]
            exact ⟨_, List.mem_cons_self, Nat.le_refl _,
              Nat.lt_add_of_pos_right symbol.char.utf8Size_pos⟩
      | cons head front =>
          obtain ⟨rfl, later⟩ := List.cons.inj here
          obtain ⟨token, member, holds⟩ :=
            inductionHypothesis (offset + first.utf8Size) later
          rw [Nat.add_assoc] at holds
          exact ⟨token, mem_tokensFrom_cons separator member, holds⟩
  | run run rest isRun ends inductionHypothesis =>
      rw [tokensFrom_run isRun ends]
      rcases Text.append_eq_append_cons here with ⟨inside, rfl, _⟩ | ⟨later, rfl, isLater⟩
      · refine ⟨_, List.mem_cons_self, Nat.le_add_right _ _, Nat.add_lt_add_left ?_ offset⟩
        rw [Text.width_append]
        exact Nat.lt_add_of_pos_right (Text.width_pos (List.cons_ne_nil _ _))
      · obtain ⟨token, member, holds⟩ := inductionHypothesis (offset + width run) isLater
        rw [Text.width_append, ← Nat.add_assoc]
        exact ⟨token, List.mem_cons_of_mem _ member, holds⟩

/-- The tokens of a query are non-empty, stand behind each other and begin and end at
characters. A token is one symbol, or a run of letters with no letter next to it, in lower
case. Every letter and every symbol is in exactly one of them, and no other character is in
any. No other list of tokens is like this. -/
theorem eq_tokenize_iff (query : Text) (tokens : List Token) :
    tokens = tokenize query ↔ IsTokenized query tokens := by
  have begins : EndsLetters (List.reverse []) := Text.endsLetters_nil
  have cut : ∀ token ∈ tokenize query, token.IsCutFrom query := fun _ member =>
    isCutFrom_of_mem_tokensFrom (.inl begins) member
  have tokenized : IsTokenized query (tokenize query) := by
    refine ⟨inOrder_tokensFrom 0 query, cut, fun before character after here isTokenChar => ?_,
      fun before character after here isNone token member holds => ?_⟩
    · obtain ⟨token, member, holds⟩ := exists_holds_of_isTokenChar 0 here isTokenChar
      rw [Nat.zero_add] at holds
      refine ⟨token, ⟨member, holds⟩, fun other ⟨otherMember, otherHolds⟩ => ?_⟩
      exact (inOrder_tokensFrom 0 query).eq_of_holds otherMember member otherHolds holds
    · exact isNone ((cut token member).isTokenChar here holds)
  constructor
  · rintro rfl
    exact tokenized
  · intro other
    exact other.unique tokenized

/-- Junk stands next to words and operators, and characters are up to four bytes wide. -/
example : tokenize "7Ää-😀b!" =
    [⟨.word "ää", ⟨1, 5⟩⟩, ⟨.word "b", ⟨10, 11⟩⟩, ⟨.symbol .not, ⟨11, 12⟩⟩] := by
  decide +kernel

end Query

end Concordance
