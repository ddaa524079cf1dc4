import Concordance.Proofs.Query.Parsing

/-!
Contract: a token list is refused at the first token with which no query goes on.

The parser never looks behind the token it refuses. What it has taken so far can be
completed to a query: every open parenthesis wants at most an operator, one more word and
a closing parenthesis, and a quote wants a word and a quote. With the refused token no
query begins, because a derivation at the front of a token list is determined by its
leaves.

Owns:
- leaves that go on to a derivation, and leaves with which none begins;
- that both are kept in whatever stands in front of an expression;
- the token and the span of every refusal that does not come from the nesting bound.

Does not own: which tokens are accepted (`Concordance.Proofs.Query.Parsing`).
-/

set_option autoImplicit false

namespace Concordance.Query

/-! ## Leaves that go on -/

/-- Leaves that go on to a derivation which keeps the nesting bound. -/
def Begins (limit depth : Nat) (leaves : List Lexeme) : Prop :=
  ∃ (expression : Expression) (more : List Lexeme),
    leaves ++ more = expression.lexemes ∧ depth + expression.nesting ≤ limit

/-- The expression of one word that stands for what is missing. -/
def anyWord : Expression := .run ['a'] []

namespace Begins

variable {limit depth : Nat} {leaves : List Lexeme}

theorem nil (within : depth ≤ limit) : Begins limit depth [] :=
  ⟨anyWord, anyWord.lexemes, rfl, within⟩

theorem not (begins : Begins limit (depth + 1) leaves) :
    Begins limit depth (.symbol .not :: leaves) := by
  obtain ⟨expression, more, whole, within⟩ := begins
  refine ⟨.not expression, more, ?_, ?_⟩
  · rw [List.cons_append, whole, Expression.lexemes]
  · rw [Expression.nesting]
    omega

theorem left (begins : Begins limit (depth + 1) leaves) :
    Begins limit depth (.symbol .leftParen :: leaves) := by
  obtain ⟨expression, more, whole, within⟩ := begins
  refine ⟨.group .and expression anyWord,
    more ++ .symbol .and :: (anyWord.lexemes ++ [.symbol .rightParen]), ?_, ?_⟩
  · rw [List.cons_append, ← List.append_assoc, whole, Expression.lexemes]
    rfl
  · simp only [Expression.nesting, anyWord]
    omega

theorem right {first : Expression} (connective : Connective)
    (firstWithin : depth + 1 + first.nesting ≤ limit)
    (begins : Begins limit (depth + 1) leaves) :
    Begins limit depth
      (.symbol .leftParen :: (first.lexemes ++ .symbol connective.symbol :: leaves)) := by
  obtain ⟨expression, more, whole, within⟩ := begins
  refine ⟨.group connective first expression, more ++ [.symbol .rightParen], ?_, ?_⟩
  · rw [Expression.lexemes, ← whole]
    simp
  · rw [Expression.nesting]
    omega

/-- Behind a whole expression an operator and a word are missing. -/
theorem operator {first : Expression} (within : depth + 1 + first.nesting ≤ limit) :
    Begins limit depth (.symbol .leftParen :: first.lexemes) := by
  exact left ⟨first, [], List.append_nil _, within⟩

theorem close {first second : Expression} (connective : Connective)
    (firstWithin : depth + 1 + first.nesting ≤ limit)
    (secondWithin : depth + 1 + second.nesting ≤ limit) :
    Begins limit depth
      (.symbol .leftParen :: (first.lexemes
        ++ .symbol connective.symbol :: second.lexemes)) :=
  right connective firstWithin ⟨second, [], List.append_nil _, secondWithin⟩

theorem phrase (within : depth ≤ limit) (words : List Text) :
    Begins limit depth (.symbol .quote :: words.map .word) := by
  cases words with
  | nil =>
      exact ⟨.phrase ['a'] [], [.word ['a'], .symbol .quote], rfl, within⟩
  | cons first others =>
      exact ⟨.phrase first others, [.symbol .quote], rfl, within⟩

end Begins

/-! ## Leaves with which nothing begins -/

/-- No list that begins with these leaves has a derivation at its front. -/
def NeverBegins (leaves : List Lexeme) : Prop :=
  ∀ (expression : Expression) (rest more : List Lexeme),
    expression.lexemes ++ rest ≠ leaves ++ more

/-- Whether a further word would prolong a run depends on the next leaf alone. -/
theorem EndsRun.congr {lexeme : Lexeme} {rest : List Lexeme} (ends : EndsRun (lexeme :: rest))
    (more : List Lexeme) : EndsRun (lexeme :: more) := by
  rintro text _ ⟨⟩
  exact ends text rest rfl

namespace NeverBegins

variable {leaves : List Lexeme}

theorem symbol {symbol : Symbol} (notOpening : symbol ≠ .leftParen) (notNot : symbol ≠ .not)
    (notQuote : symbol ≠ .quote) : NeverBegins [.symbol symbol] := by
  intro expression rest more same
  cases expression with
  | group _ _ _ =>
      cases same
      exact notOpening rfl
  | not _ =>
      cases same
      exact notNot rfl
  | phrase _ _ =>
      cases same
      exact notQuote rfl
  | run _ _ => cases same

theorem not (never : NeverBegins leaves) : NeverBegins (.symbol .not :: leaves) := by
  intro expression rest more same
  cases expression with
  | not inner =>
      rw [Expression.lexemes, List.cons_append, List.cons_append, List.cons.injEq] at same
      exact never inner rest more same.2
  | group _ _ _ => simp [Expression.lexemes] at same
  | phrase _ _ => simp [Expression.lexemes] at same
  | run _ _ => simp [Expression.lexemes] at same

/-- What begins with a parenthesis is a group, and nothing else. -/
theorem group
    (never : ∀ (connective : Connective) (first second : Expression) (rest more : List Lexeme),
      first.lexemes ++ .symbol connective.symbol
        :: (second.lexemes ++ .symbol .rightParen :: rest) ≠ leaves ++ more) :
    NeverBegins (.symbol .leftParen :: leaves) := by
  intro expression rest more same
  cases expression with
  | group connective first second =>
      apply never connective first second rest more
      simpa [Expression.lexemes] using same
  | not _ => simp [Expression.lexemes] at same
  | phrase _ _ => simp [Expression.lexemes] at same
  | run _ _ => simp [Expression.lexemes] at same

theorem left (never : NeverBegins leaves) : NeverBegins (.symbol .leftParen :: leaves) :=
  group fun _ first _ _ more => never first _ more

theorem operator {first : Expression} {lexeme : Lexeme} {following : List Lexeme}
    (ends : first.endsInRun = true → EndsRun (lexeme :: following))
    (notConnective : ∀ connective : Connective, lexeme ≠ .symbol connective.symbol) :
    NeverBegins (.symbol .leftParen :: (first.lexemes ++ [lexeme])) := by
  refine group fun connective other second rest more same => ?_
  rw [List.append_assoc, List.singleton_append] at same
  obtain ⟨_, tails⟩ := Expression.lexemes_append_inj (fun _ => endsRun_symbol _ _)
    (fun run => (ends run).congr more) same
  rw [List.cons.injEq] at tails
  exact notConnective connective tails.1.symm

theorem right (connective : Connective) (first : Expression) (never : NeverBegins leaves) :
    NeverBegins
      (.symbol .leftParen :: (first.lexemes ++ .symbol connective.symbol :: leaves)) := by
  refine group fun other otherFirst second rest more same => ?_
  rw [List.append_assoc, List.cons_append] at same
  obtain ⟨_, tails⟩ := Expression.lexemes_append_inj (fun _ => endsRun_symbol _ _)
    (fun _ => endsRun_symbol _ _) same
  rw [List.cons.injEq] at tails
  exact never second _ more tails.2

theorem close (connective : Connective) (first : Expression) {second : Expression}
    {lexeme : Lexeme} {following : List Lexeme}
    (ends : second.endsInRun = true → EndsRun (lexeme :: following))
    (notClose : lexeme ≠ .symbol .rightParen) :
    NeverBegins (.symbol .leftParen :: (first.lexemes ++ .symbol connective.symbol
      :: (second.lexemes ++ [lexeme]))) := by
  refine group fun other otherFirst otherSecond rest more same => ?_
  rw [List.append_assoc, List.cons_append, List.append_assoc, List.singleton_append] at same
  obtain ⟨_, tails⟩ := Expression.lexemes_append_inj (fun _ => endsRun_symbol _ _)
    (fun _ => endsRun_symbol _ _) same
  rw [List.cons.injEq] at tails
  obtain ⟨_, closings⟩ := Expression.lexemes_append_inj (fun _ => endsRun_symbol _ _)
    (fun run => (ends run).congr more) tails.2
  rw [List.cons.injEq] at closings
  exact notClose closings.1.symm

/-- A quote and words go on with a further word or with a quote that is not the first. -/
theorem phrase {words : List Text} {symbol : Symbol} (wrong : symbol = .quote → words = []) :
    NeverBegins (.symbol .quote :: (words.map .word ++ [.symbol symbol])) := by
  intro expression rest more same
  cases expression with
  | phrase first others =>
      simp only [Expression.lexemes, List.cons_append, List.append_assoc, List.nil_append,
        List.cons.injEq, true_and] at same
      obtain ⟨same, closing⟩ :=
        words_append_inj (endsRun_symbol _ _) (endsRun_symbol _ _) same
      rw [List.cons.injEq, Lexeme.symbol.injEq] at closing
      rw [wrong closing.1.symm] at same
      cases same
  | group _ _ _ => simp [Expression.lexemes] at same
  | not _ => simp [Expression.lexemes] at same
  | run _ _ => simp [Expression.lexemes] at same

end NeverBegins

/-! ## Refusals of an expression -/

/-- Whether a problem is that the tokens end too early. -/
def Problem.isAtEnd : Problem → Bool
  | emptyQuery | unexpectedEnd | missingOperator | missingClose | missingQuote => true
  | tooDeep _ | unexpectedOperator _ | expectedOperator _ | expectedClose _ | emptyPhrase
  | operatorInPhrase _ | trailingInput _ => false

/-- An error points at a token with the tokens `before` in front of it, and for an empty
phrase at both of its quotes. -/
def ParseError.PointsAt (error : ParseError) (before : List Token) (token : Token) : Prop :=
  if error.problem = .emptyPhrase then
    ∃ quote, before.getLast? = some quote ∧ error.span = some (quote.span.join token.span)
  else error.span = some token.span

theorem ParseError.PointsAt.behind {error : ParseError} {before : List Token} {token : Token}
    (points : error.PointsAt before token) (front : List Token) :
    error.PointsAt (front ++ before) token := by
  unfold PointsAt at points ⊢
  split
  · rename_i empty
    rw [if_pos empty] at points
    obtain ⟨quote, last, span⟩ := points
    refine ⟨quote, ?_, span⟩
    rw [List.getLast?_append, last, Option.some_or]
  · rename_i other
    rw [if_neg other] at points
    exact points

/-- Why and where an expression is refused: the tokens end too early and could go on, or
one token stands where they could go on without it, and could not with it. -/
inductive Refused (limit depth : Nat) (tokens : List Token) (error : ParseError) : Prop where
  | atEnd (early : error.problem.isAtEnd = true)
      (begins : Begins limit depth (tokens.map Token.lexeme))
  | atToken (before : List Token) (token : Token) (after : List Token)
      (split : tokens = before ++ token :: after) (late : error.problem.isAtEnd = false)
      (begins : Begins limit depth (before.map Token.lexeme))
      (never : NeverBegins ((before ++ [token]).map Token.lexeme))
      (points : error.PointsAt before token)

section Leaves

variable {opening : Token} {expression : Expression} {front : List Token} {tree : Tree}

theorem map_lexeme_opened (opens : opening.lexeme = .symbol .leftParen)
    (spells : Spells expression front tree) :
    (opening :: front).map Token.lexeme = .symbol .leftParen :: expression.lexemes := by
  rw [List.map_cons, opens, spells.map_lexeme]

theorem map_lexeme_joined {operator : Token} {connective : Connective}
    (opens : opening.lexeme = .symbol .leftParen) (spells : Spells expression front tree)
    (joins : operator.connective? = some connective) (back : List Token) :
    (opening :: (front ++ operator :: back)).map Token.lexeme
      = .symbol .leftParen :: (expression.lexemes
        ++ .symbol connective.symbol :: back.map Token.lexeme) := by
  rw [← List.cons_append, List.map_append, map_lexeme_opened opens spells, List.map_cons,
    eq_of_connective? joins, List.cons_append]

end Leaves

namespace Refused

variable {limit depth : Nat} {tokens : List Token} {error : ParseError}

/-- A part of an expression is refused as the whole is, if what stands in front of the part
keeps what begins and what never begins. -/
theorem behind (front : List Token)
    (begins : ∀ leaves, Begins limit (depth + 1) leaves →
      Begins limit depth (front.map Token.lexeme ++ leaves))
    (never : ∀ leaves, NeverBegins leaves → NeverBegins (front.map Token.lexeme ++ leaves))
    (refused : Refused limit (depth + 1) tokens error) :
    Refused limit depth (front ++ tokens) error := by
  cases refused with
  | atEnd early goesOn =>
      refine .atEnd early ?_
      rw [List.map_append]
      exact begins _ goesOn
  | atToken before token after split late goesOn neverBegins points =>
      refine .atToken (front ++ before) token after ?_ late ?_ ?_ (points.behind front)
      · rw [split, List.append_assoc]
      · rw [List.map_append]
        exact begins _ goesOn
      · rw [List.append_assoc, List.map_append]
        exact never _ neverBegins

theorem not {mark : Token} (negates : mark.lexeme = .symbol .not)
    (refused : Refused limit (depth + 1) tokens error) :
    Refused limit depth (mark :: tokens) error := by
  have leaf : [mark].map Token.lexeme = [.symbol .not] := by
    rw [List.map_singleton, negates]
  refine refused.behind [mark] ?_ ?_ <;> rw [leaf]
  · exact fun _ begins => begins.not
  · exact fun _ never => never.not

theorem left {opening : Token} (opens : opening.lexeme = .symbol .leftParen)
    (refused : Refused limit (depth + 1) tokens error) :
    Refused limit depth (opening :: tokens) error := by
  have leaf : [opening].map Token.lexeme = [.symbol .leftParen] := by
    rw [List.map_singleton, opens]
  refine refused.behind [opening] ?_ ?_ <;> rw [leaf]
  · exact fun _ begins => begins.left
  · exact fun _ never => never.left

theorem right {opening operator : Token} {following : List Token} {connective : Connective}
    {tree : Tree} (opens : opening.lexeme = .symbol .leftParen)
    (first : DerivedBefore limit (depth + 1) tokens (operator :: following) tree)
    (joins : operator.connective? = some connective)
    (refused : Refused limit (depth + 1) following error) :
    Refused limit depth (opening :: tokens) error := by
  obtain ⟨expression, front, rfl, spells, within, _⟩ := first
  have leaves : ∀ more, (opening :: (front ++ [operator])).map Token.lexeme ++ more
      = .symbol .leftParen :: (expression.lexemes ++ .symbol connective.symbol :: more) := by
    intro more
    rw [map_lexeme_joined opens spells joins, List.cons_append, List.append_assoc]
    rfl
  have regrouped : opening :: (front ++ operator :: following)
      = opening :: (front ++ [operator]) ++ following := by simp
  rw [regrouped]
  refine refused.behind _ (fun more begins => ?_) (fun more never => ?_)
  · rw [leaves]
    exact begins.right connective within
  · rw [leaves]
    exact never.right connective expression

/-- Nothing behind a whole expression is missing but an operator. -/
theorem operator {opening : Token} {tree : Tree} (opens : opening.lexeme = .symbol .leftParen)
    (first : DerivedBefore limit (depth + 1) tokens [] tree)
    (early : error.problem.isAtEnd = true) :
    Refused limit depth (opening :: tokens) error := by
  obtain ⟨expression, front, rfl, spells, within, _⟩ := first
  refine .atEnd early ?_
  rw [List.append_nil, map_lexeme_opened opens spells]
  exact Begins.operator within

/-- Behind a whole expression stands something else than an operator. -/
theorem notOperator {opening operator : Token} {following : List Token} {tree : Tree}
    (opens : opening.lexeme = .symbol .leftParen)
    (first : DerivedBefore limit (depth + 1) tokens (operator :: following) tree)
    (refused : operator.connective? = none) :
    Refused limit depth (opening :: tokens)
      ⟨.expectedOperator operator.lexeme, some operator.span⟩ := by
  obtain ⟨expression, front, rfl, spells, within, ends⟩ := first
  refine .atToken (opening :: front) operator following rfl rfl ?_ ?_ ?_
  · rw [map_lexeme_opened opens spells]
    exact Begins.operator within
  · rw [List.map_append, map_lexeme_opened opens spells]
    refine NeverBegins.operator ends fun connective same => ?_
    rw [connective?_of_eq same] at refused
    cases refused
  · rfl

section Close

variable {opening operator : Token} {following : List Token} {connective : Connective}
  {leftTree rightTree : Tree}

/-- Nothing behind both sides of a group is missing but the closing parenthesis. -/
theorem close (opens : opening.lexeme = .symbol .leftParen)
    (first : DerivedBefore limit (depth + 1) tokens (operator :: following) leftTree)
    (joins : operator.connective? = some connective)
    (second : DerivedBefore limit (depth + 1) following [] rightTree)
    (early : error.problem.isAtEnd = true) :
    Refused limit depth (opening :: tokens) error := by
  obtain ⟨left, front, rfl, leftSpells, leftWithin, _⟩ := first
  obtain ⟨right, back, rfl, rightSpells, rightWithin, _⟩ := second
  refine .atEnd early ?_
  rw [List.append_nil, map_lexeme_joined opens leftSpells joins, rightSpells.map_lexeme]
  exact Begins.close connective leftWithin rightWithin

/-- Behind both sides of a group stands something else than a closing parenthesis. -/
theorem notClose {closing : Token} {rest : List Token}
    (opens : opening.lexeme = .symbol .leftParen)
    (first : DerivedBefore limit (depth + 1) tokens (operator :: following) leftTree)
    (joins : operator.connective? = some connective)
    (second : DerivedBefore limit (depth + 1) following (closing :: rest) rightTree)
    (refused : closing.lexeme ≠ .symbol .rightParen) :
    Refused limit depth (opening :: tokens)
      ⟨.expectedClose closing.lexeme, some closing.span⟩ := by
  obtain ⟨left, front, rfl, leftSpells, leftWithin, _⟩ := first
  obtain ⟨right, back, rfl, rightSpells, rightWithin, ends⟩ := second
  have regrouped : opening :: (front ++ operator :: (back ++ closing :: rest))
      = opening :: (front ++ operator :: back) ++ closing :: rest := by simp
  have leaves : (opening :: (front ++ operator :: back)).map Token.lexeme
      = .symbol .leftParen :: (left.lexemes ++ .symbol connective.symbol :: right.lexemes) := by
    rw [map_lexeme_joined opens leftSpells joins, rightSpells.map_lexeme]
  refine .atToken _ closing rest regrouped rfl ?_ ?_ rfl
  · rw [leaves]
    exact Begins.close connective leftWithin rightWithin
  · rw [List.map_append, leaves, List.map_singleton, List.cons_append, List.append_assoc,
      List.cons_append]
    exact NeverBegins.close connective left ends refused

end Close

end Refused

theorem phrase?_refused {limit depth : Nat} {quote : Token} {tokens : List Token}
    {error : ParseError} (within : depth ≤ limit) (opening : quote.lexeme = .symbol .quote)
    (refused : phrase? quote tokens = .error error) :
    Refused limit depth (quote :: tokens) error := by
  obtain ⟨split, ends⟩ := leadingWords_split tokens
  have leaves : ∀ words : List (Text × Span), (quote :: words.map wordToken).map Token.lexeme
      = .symbol .quote :: (words.map (·.1)).map .word := by
    intro words
    rw [List.map_cons, opening, map_lexeme_wordToken]
  unfold phrase? at refused
  split at refused
  · rename_i none
    cases refused
    rw [none, List.append_nil] at split
    refine .atEnd rfl ?_
    rw [split, leaves]
    exact Begins.phrase within _
  · rename_i close rest after
    rw [after] at split ends
    have found : quote :: tokens
        = quote :: (leadingWords tokens).1.map wordToken ++ close :: rest := by
      rw [List.cons_append, ← split]
    split at refused
    · rename_i closing
      split at refused
      · rename_i empty
        cases refused
        rw [empty] at found
        refine .atToken [quote] close rest found rfl ?_ ?_ ⟨quote, rfl, rfl⟩
        · rw [List.map_singleton, opening]
          exact Begins.phrase within []
        · rw [List.map_append, List.map_singleton, List.map_singleton, opening, closing]
          exact NeverBegins.phrase fun _ => rfl
      · cases refused
    · rename_i notQuote
      cases refused
      refine .atToken _ close rest found rfl ?_ ?_ rfl
      · rw [leaves]
        exact Begins.phrase within _
      · rw [List.map_append, leaves, List.map_singleton]
        cases lexeme : close.lexeme with
        | word text =>
            rw [List.map_cons, lexeme] at ends
            exact absurd rfl (ends text _)
        | symbol symbol =>
            refine NeverBegins.phrase fun same => ?_
            rw [lexeme, same] at notQuote
            exact absurd rfl notQuote

/-- The cases are the branches of the parser. One of them is the nesting bound, for which
there are too few tokens. -/
theorem expression?_refused {limit depth : Nat} {finish : Option Span} {tokens : List Token}
    {error : ParseError} (room : depth + tokens.length ≤ limit)
    (refused : expression? limit finish depth tokens = .error error) :
    Refused limit depth tokens error := by
  fun_induction expression? limit finish depth tokens with
  | case1 depth =>
      cases refused
      exact .atEnd rfl (Begins.nil room)
  | case2 depth token rest deep => omega
  | case3 | case6 | case12 => cases refused
  | case4 depth token rest shallow lexeme =>
      exact phrase?_refused (Nat.le_of_not_lt shallow) lexeme refused
  | case5 depth token rest shallow lexeme problem failed inductionHypothesis =>
      cases refused
      rw [List.length_cons] at room
      exact (inductionHypothesis (by omega) failed).not lexeme
  | case7 depth token rest shallow lexeme problem failed inductionHypothesis =>
      cases refused
      rw [List.length_cons] at room
      exact (inductionHypothesis (by omega) failed).left lexeme
  | case8 depth token rest shallow lexeme left parsedLeft afterLeft leftHypothesis =>
      cases refused
      have first := expression?_sound parsedLeft
      rw [afterLeft] at first
      exact .operator lexeme first rfl
  | case9 depth token rest shallow lexeme left parsedLeft operator following afterLeft
      notConnective leftHypothesis =>
      cases refused
      have first := expression?_sound parsedLeft
      rw [afterLeft] at first
      exact .notOperator lexeme first notConnective
  | case10 depth token rest shallow lexeme left parsedLeft operator following afterLeft
      connective joined problem failed leftHypothesis rightHypothesis =>
      cases refused
      have first := expression?_sound parsedLeft
      have shorter := left.shorter
      rw [afterLeft] at first shorter
      rw [List.length_cons] at room shorter
      exact .right lexeme first joined (rightHypothesis (by omega) failed)
  | case11 depth token rest shallow lexeme left parsedLeft operator following afterLeft
      connective joined right parsedRight afterRight leftHypothesis rightHypothesis =>
      cases refused
      have first := expression?_sound parsedLeft
      have second := expression?_sound parsedRight
      rw [afterLeft] at first
      rw [afterRight] at second
      exact .close lexeme first joined second rfl
  | case13 depth token rest shallow lexeme left parsedLeft operator following afterLeft
      connective joined right parsedRight close remaining afterRight notClosing
      leftHypothesis rightHypothesis =>
      cases refused
      have first := expression?_sound parsedLeft
      have second := expression?_sound parsedRight
      rw [afterLeft] at first
      rw [afterRight] at second
      exact .notClose lexeme first joined second notClosing
  | case14 depth token rest shallow symbol notQuote notNot notOpening lexeme =>
      cases refused
      refine .atToken [] token rest rfl rfl (Begins.nil (Nat.le_of_not_lt shallow)) ?_ rfl
      rw [List.nil_append, List.map_singleton, lexeme]
      exact NeverBegins.symbol notOpening notNot notQuote

/-! ## Whole queries -/

/-- Tokens that go on to a query. -/
def Viable (limit : Nat) (tokens : List Token) : Prop :=
  ∃ (more : List Token) (tree : Tree), parseTokens limit (tokens ++ more) = .ok tree

theorem viable_of_begins {limit : Nat} {tokens : List Token}
    (begins : Begins limit 0 (tokens.map Token.lexeme)) : Viable limit tokens := by
  obtain ⟨expression, more, whole, within⟩ := begins
  rw [Nat.zero_add] at within
  -- Where the missing tokens stand does not matter.
  let placed : List Token := more.map fun lexeme => ⟨lexeme, ⟨0, 0⟩⟩
  have leaves : expression.lexemes = (tokens ++ placed).map Token.lexeme := by
    rw [List.map_append, List.map_map, ← whole]
    exact congrArg _ (List.map_id more).symm
  obtain ⟨tree, accepted⟩ := parseTokens_complete ⟨leaves, within⟩
  exact ⟨placed, tree, accepted⟩

theorem not_viable_of_never {tokens : List Token}
    (never : NeverBegins (tokens.map Token.lexeme)) (limit : Nat) : ¬Viable limit tokens := by
  rintro ⟨more, tree, accepted⟩
  obtain ⟨expression, ⟨leaves, _⟩, _⟩ := parseTokens_sound accepted
  apply never expression [] (more.map Token.lexeme)
  rw [List.append_nil, leaves, List.map_append]

/-- Behind a whole query no further token goes on, unless it prolongs a run of words. -/
theorem Spells.not_viable_append {expression : Expression} {front following : List Token}
    {extra : Token} {tree : Tree} (spells : Spells expression front tree)
    (ends : expression.endsInRun = true → EndsRun ((extra :: following).map Token.lexeme))
    (limit : Nat) : ¬Viable limit (front ++ [extra]) := by
  rintro ⟨more, other, accepted⟩
  obtain ⟨derived, ⟨leaves, _⟩, _⟩ := parseTokens_sound accepted
  have same : derived.lexemes ++ []
      = expression.lexemes ++ extra.lexeme :: more.map Token.lexeme := by
    rw [List.append_nil, leaves, ← spells.map_lexeme]
    simp
  obtain ⟨_, nothing⟩ := Expression.lexemes_append_inj (fun _ => endsRun_nil)
    (fun run => (ends run).congr _) same
  cases nothing

/-- A token list that leaves room for its nesting is refused in one of two ways. Either it
ends too early, and goes on to a query. Or the error points at the first token with which
the list goes on to no query, whatever the nesting bound. -/
theorem parseTokens_refused {limit : Nat} {tokens : List Token} {error : ParseError}
    (room : tokens.length ≤ limit) (refused : parseTokens limit tokens = .error error) :
    (error.problem.isAtEnd = true ∧ Viable limit tokens) ∨
      (error.problem.isAtEnd = false ∧ ∃ (before : List Token) (token : Token)
        (after : List Token), tokens = before ++ token :: after ∧ Viable limit before ∧
          (∀ other, ¬Viable other (before ++ [token])) ∧ error.PointsAt before token) := by
  cases tokens with
  | nil =>
      cases refused
      exact .inl ⟨rfl, viable_of_begins (Begins.nil (Nat.zero_le _))⟩
  | cons first others =>
      rw [parseTokens] at refused
      split at refused
      · rename_i failed
        cases refused
        rw [← Nat.zero_add (List.length _)] at room
        cases expression?_refused room failed with
        | atEnd early begins => exact .inl ⟨early, viable_of_begins begins⟩
        | atToken before token after split late begins never points =>
            exact .inr ⟨late, before, token, after, split, viable_of_begins begins,
              not_viable_of_never never, points⟩
      · rename_i parsed found
        split at refused
        · cases refused
        · rename_i extra following behind
          cases refused
          have taken := expression?_sound found
          rw [behind] at taken
          obtain ⟨expression, front, split, spells, within, ends⟩ := taken
          rw [Nat.zero_add] at within
          have accepted : parseTokens limit (front ++ []) = .ok parsed.tree := by
            rw [List.append_nil]
            exact parseTokens_iff_spells.mpr ⟨expression, spells, within⟩
          exact .inr ⟨rfl, front, extra, following, split, ⟨[], parsed.tree, accepted⟩,
            spells.not_viable_append ends, rfl⟩

/-- The query `(a | "")`, whose error points at both quotes. -/
theorem parseTokens_refused_emptyPhrase :
    (tokenize "(a | \"\")").length ≤ 6 ∧
      parseTokens 6 (tokenize "(a | \"\")") = .error ⟨.emptyPhrase, some ⟨5, 7⟩⟩ ∧
      ∃ (before : List Token) (token : Token) (after : List Token),
        tokenize "(a | \"\")" = before ++ token :: after ∧ Viable 6 before ∧
          (∀ other, ¬Viable other (before ++ [token])) ∧
          ParseError.PointsAt ⟨.emptyPhrase, some ⟨5, 7⟩⟩ before token := by
  have room : (tokenize "(a | \"\")").length ≤ 6 := by decide +kernel
  have refused : parseTokens 6 (tokenize "(a | \"\")")
      = .error ⟨.emptyPhrase, some ⟨5, 7⟩⟩ := by decide +kernel
  refine ⟨room, refused, ?_⟩
  obtain ⟨early, _⟩ | ⟨_, pointed⟩ := parseTokens_refused room refused
  · cases early
  · exact pointed

end Concordance.Query
