import Concordance.Proofs.Query.Spelling
import Concordance.Query.Parser
import Mathlib.Data.Set.Subsingleton

/-!
Contract: the parser accepts what the grammar derives, and builds the tree it denotes.

Owns:
- what the parser takes off the front of a token list spells a derivation;
- the parser takes every derivation off the front that is not nested too deep and
  behind which no further word stands;
- that a whole token list is accepted just if the grammar derives it.

Does not own: which error a refused token list gives (`Concordance.Proofs.Query.Refusals`).
-/

set_option autoImplicit false

namespace Concordance.Query

/-! ## Runs of words -/

/-- The words at the front of a token list are taken up to the first token that is no
word. -/
theorem leadingWords_split (tokens : List Token) :
    tokens = (leadingWords tokens).1.map wordToken ++ (leadingWords tokens).2 ∧
      EndsRun ((leadingWords tokens).2.map Token.lexeme) := by
  induction tokens with
  | nil => exact ⟨rfl, endsRun_nil⟩
  | cons token rest inductionHypothesis =>
      obtain ⟨split, ends⟩ := inductionHypothesis
      rw [leadingWords]
      cases lexeme : token.lexeme with
      | symbol symbol =>
          refine ⟨rfl, ?_⟩
          dsimp only
          rw [List.map_cons, lexeme]
          exact endsRun_symbol _ _
      | word text =>
          have spelled : token = wordToken (text, token.span) := by
            rw [wordToken, ← lexeme]
          refine ⟨?_, ends⟩
          dsimp only
          rw [List.map_cons, List.cons_append, ← split, ← spelled]

/-- Words with no further word behind them are all taken. -/
theorem leadingWords_append (words : List (Text × Span)) {rest : List Token}
    (ends : EndsRun (rest.map Token.lexeme)) :
    leadingWords (words.map wordToken ++ rest) = (words, rest) := by
  induction words with
  | nil =>
      cases rest with
      | nil => rfl
      | cons token others =>
          rw [List.map_nil, List.nil_append, leadingWords]
          cases lexeme : token.lexeme with
          | symbol symbol => rfl
          | word text =>
              rw [List.map_cons, lexeme] at ends
              exact absurd rfl (ends text _)
  | cons word others inductionHypothesis =>
      rw [List.map_cons, List.cons_append, leadingWords, inductionHypothesis]
      rfl

theorem eq_of_connective? {token : Token} {connective : Connective}
    (operator : token.connective? = some connective) :
    token.lexeme = .symbol connective.symbol := by
  unfold Token.connective? at operator
  split at operator
  · cases operator
    assumption
  · cases operator
    assumption
  · cases operator

theorem connective?_of_eq {token : Token} {connective : Connective}
    (lexeme : token.lexeme = .symbol connective.symbol) :
    token.connective? = some connective := by
  rw [Token.connective?, lexeme]
  cases connective <;> rfl

/-! ## What is accepted is derived -/

/-- The tokens in front of `rest` spell a derivation that keeps the nesting bound and
denotes the tree. If they end in a run of words, no further word stands behind it. -/
def DerivedBefore (limit depth : Nat) (tokens rest : List Token) (tree : Tree) : Prop :=
  ∃ (expression : Expression) (front : List Token), tokens = front ++ rest ∧
    Spells expression front tree ∧ depth + expression.nesting ≤ limit ∧
    (expression.endsInRun = true → EndsRun (rest.map Token.lexeme))

namespace DerivedBefore

variable {limit depth : Nat} {token : Token} {tokens rest : List Token}

theorem not {tree : Tree} (lexeme : token.lexeme = .symbol .not)
    (inner : DerivedBefore limit (depth + 1) tokens rest tree) :
    DerivedBefore limit depth (token :: tokens) rest
      (tree.negate (token.span.join tree.mark.span)) := by
  obtain ⟨expression, front, rfl, spells, within, ends⟩ := inner
  refine ⟨.not expression, token :: front, rfl, .not lexeme spells, ?_, ends⟩
  rw [Expression.nesting]
  omega

theorem group {left right : Tree} {operator close : Token} {following : List Token}
    {connective : Connective} (opening : token.lexeme = .symbol .leftParen)
    (first : DerivedBefore limit (depth + 1) tokens (operator :: following) left)
    (joined : operator.connective? = some connective)
    (second : DerivedBefore limit (depth + 1) following (close :: rest) right)
    (closing : close.lexeme = .symbol .rightParen) :
    DerivedBefore limit depth (token :: tokens) rest
      (.binary ⟨false, token.span.join close.span⟩ connective left right) := by
  obtain ⟨leftExpression, leftFront, rfl, leftSpells, leftWithin, _⟩ := first
  obtain ⟨rightExpression, rightFront, rfl, rightSpells, rightWithin, _⟩ := second
  refine ⟨.group connective leftExpression rightExpression,
    token :: (leftFront ++ operator :: (rightFront ++ [close])), by simp,
    .group opening leftSpells (eq_of_connective? joined) rightSpells closing, ?_,
    fun run => by cases run⟩
  rw [Expression.nesting]
  omega

end DerivedBefore

theorem phrase?_sound {limit depth : Nat} {quote : Token} {tokens : List Token}
    {parsed : Parsed (quote :: tokens)} (within : depth ≤ limit)
    (opening : quote.lexeme = .symbol .quote)
    (accepted : phrase? quote tokens = .ok parsed) :
    DerivedBefore limit depth (quote :: tokens) parsed.rest parsed.tree := by
  obtain ⟨split, _⟩ := leadingWords_split tokens
  unfold phrase? at accepted
  split at accepted
  · cases accepted
  · rename_i close rest after
    split at accepted
    · rename_i closing
      split at accepted
      · cases accepted
      · rename_i nonempty
        cases accepted
        cases taken : (leadingWords tokens).1 with
        | nil => exact absurd taken nonempty
        | cons word others =>
            rw [taken, after] at split
            refine ⟨.phrase word.1 (others.map (·.1)), _, ?_,
              .phrase opening word others closing, within, fun run => by cases run⟩
            show quote :: tokens
              = quote :: ((word :: others).map wordToken ++ [close]) ++ rest
            rw [List.cons_append, List.append_assoc, List.singleton_append, ← split]
    · cases accepted

theorem wordRun_sound {limit depth : Nat} {token : Token} {text : Text}
    (within : depth ≤ limit) (lexeme : token.lexeme = .word text) (tokens : List Token) :
    DerivedBefore limit depth (token :: tokens) (wordRun text token tokens).rest
      (wordRun text token tokens).tree := by
  obtain ⟨split, ends⟩ := leadingWords_split tokens
  have spelled : wordToken (text, token.span) = token := by
    rw [wordToken, ← lexeme]
  refine ⟨.run text ((leadingWords tokens).1.map (·.1)), _, ?_,
    .run (text, token.span) (leadingWords tokens).1, within, fun _ => ends⟩
  rw [List.map_cons, spelled, List.cons_append, wordRun, ← split]

/-- What the parser takes off the front spells a derivation. The cases are the branches of
the parser, most of which refuse. -/
theorem expression?_sound {limit depth : Nat} {finish : Option Span} {tokens : List Token}
    {parsed : Parsed tokens} (accepted : expression? limit finish depth tokens = .ok parsed) :
    DerivedBefore limit depth tokens parsed.rest parsed.tree := by
  fun_induction expression? limit finish depth tokens with
  | case1 | case2 | case5 | case7 | case8 | case9 | case10 | case11 | case13 | case14 =>
      cases accepted
  | case3 depth token rest shallow text lexeme =>
      cases accepted
      exact wordRun_sound (Nat.le_of_not_lt shallow) lexeme rest
  | case4 depth token rest shallow lexeme =>
      exact phrase?_sound (Nat.le_of_not_lt shallow) lexeme accepted
  | case6 depth token rest shallow lexeme inner parsedInner innerHypothesis =>
      cases accepted
      exact (innerHypothesis parsedInner).not lexeme
  | case12 depth token rest shallow lexeme left parsedLeft operator following afterLeft
      connective joined right parsedRight close remaining afterRight closing leftHypothesis
      rightHypothesis =>
      cases accepted
      have first := leftHypothesis parsedLeft
      have second := rightHypothesis parsedRight
      rw [afterLeft] at first
      rw [afterRight] at second
      exact first.group lexeme joined second closing

/-- Tokens are taken off the front only. -/
theorem expression?_suffix {limit depth : Nat} {finish : Option Span} {tokens : List Token}
    {parsed : Parsed tokens} (accepted : expression? limit finish depth tokens = .ok parsed) :
    parsed.rest <:+ tokens := by
  obtain ⟨_, front, split, _⟩ := expression?_sound accepted
  exact ⟨front, split.symm⟩

/-! ## What is derived is accepted -/

/-- The parser takes the tokens in front of `rest` off a token list and builds the tree. -/
def AcceptedBefore (limit : Nat) (finish : Option Span) (depth : Nat)
    (tokens rest : List Token) (tree : Tree) : Prop :=
  ∃ parsed, expression? limit finish depth tokens = .ok parsed ∧ parsed.tree = tree ∧
    parsed.rest = rest

theorem phrase?_complete {quote close : Token} (first : Text × Span)
    (others : List (Text × Span)) (closing : close.lexeme = .symbol .quote)
    (rest : List Token) :
    ∃ parsed, phrase? quote ((first :: others).map wordToken ++ close :: rest) = .ok parsed ∧
      parsed.tree = .literal ⟨false, quote.span.join close.span⟩
        ⟨(first :: others).map (·.1), true⟩ ∧
      parsed.rest = rest := by
  have ends : EndsRun ((close :: rest).map Token.lexeme) := by
    rw [List.map_cons, closing]
    exact endsRun_symbol _ _
  have taken := leadingWords_append (first :: others) ends
  unfold phrase?
  split
  · rename_i none
    rw [taken] at none
    cases none
  · rename_i found after split
    rw [taken] at split
    cases split
    rw [if_pos closing]
    split
    · rename_i none
      rw [taken] at none
      cases none
    · refine ⟨_, rfl, ?_, rfl⟩
      dsimp only
      rw [taken]

namespace AcceptedBefore

variable {limit depth : Nat} {finish : Option Span} {token : Token} {tokens rest : List Token}

theorem not {tree : Tree} (shallow : depth ≤ limit) (lexeme : token.lexeme = .symbol .not)
    (inner : AcceptedBefore limit finish (depth + 1) tokens rest tree) :
    AcceptedBefore limit finish depth (token :: tokens) rest
      (tree.negate (token.span.join tree.mark.span)) := by
  obtain ⟨parsed, accepted, rfl, remaining⟩ := inner
  rw [AcceptedBefore, expression?, if_neg (Nat.not_lt_of_le shallow)]
  simp only [lexeme, accepted]
  exact ⟨_, rfl, rfl, remaining⟩

theorem group {operator close : Token} {following : List Token} {connective : Connective}
    {left right : Tree} (shallow : depth ≤ limit)
    (opening : token.lexeme = .symbol .leftParen)
    (first : AcceptedBefore limit finish (depth + 1) tokens (operator :: following) left)
    (joined : operator.connective? = some connective)
    (second : AcceptedBefore limit finish (depth + 1) following (close :: rest) right)
    (closing : close.lexeme = .symbol .rightParen) :
    AcceptedBefore limit finish depth (token :: tokens) rest
      (.binary ⟨false, token.span.join close.span⟩ connective left right) := by
  obtain ⟨⟨leftTree, leftRest, leftShorter⟩, leftAccepted, rfl, rfl⟩ := first
  obtain ⟨⟨rightTree, rightRest, rightShorter⟩, rightAccepted, rfl, rfl⟩ := second
  rw [AcceptedBefore, expression?, if_neg (Nat.not_lt_of_le shallow)]
  simp only [opening, leftAccepted, joined, rightAccepted, closing, if_true]
  exact ⟨_, rfl, rfl, rfl⟩

end AcceptedBefore

/-- The parser takes what spells a derivation off the front of a token list if no further
word stands behind it. The induction is on the derivation. -/
theorem expression?_complete {limit depth : Nat} (finish : Option Span)
    {expression : Expression} {front rest : List Token} {tree : Tree}
    (spells : Spells expression front tree) (ends : EndsRun (rest.map Token.lexeme))
    (within : depth + expression.nesting ≤ limit) :
    AcceptedBefore limit finish depth (front ++ rest) rest tree := by
  have shallow : depth ≤ limit := Nat.le_trans (Nat.le_add_right _ _) within
  induction spells generalizing depth rest with
  | @group connective left right opening operator closing leftTokens rightTokens leftTree
      rightTree opens first joins second closes leftHypothesis rightHypothesis =>
      rw [Expression.nesting] at within
      have taken : AcceptedBefore limit finish (depth + 1)
          (leftTokens ++ operator :: (rightTokens ++ closing :: rest))
          (operator :: (rightTokens ++ closing :: rest)) leftTree := by
        apply leftHypothesis _ (by omega) (by omega)
        rw [List.map_cons, joins]
        exact endsRun_symbol _ _
      have takenNext : AcceptedBefore limit finish (depth + 1)
          (rightTokens ++ closing :: rest) (closing :: rest) rightTree := by
        apply rightHypothesis _ (by omega) (by omega)
        rw [List.map_cons, closes]
        exact endsRun_symbol _ _
      have regrouped : opening :: (leftTokens ++ operator :: (rightTokens ++ [closing])) ++ rest
          = opening :: (leftTokens ++ operator :: (rightTokens ++ closing :: rest)) := by simp
      rw [regrouped]
      exact taken.group shallow opens (connective?_of_eq joins) takenNext closes
  | @not inner mark tokens tree negates spells inductionHypothesis =>
      rw [Expression.nesting] at within
      have taken : AcceptedBefore limit finish (depth + 1) (tokens ++ rest) rest tree :=
        inductionHypothesis ends (by omega) (by omega)
      exact taken.not shallow negates
  | @phrase opening closing opens first others closes =>
      rw [List.cons_append, List.append_assoc, List.singleton_append, AcceptedBefore,
        expression?, if_neg (Nat.not_lt_of_le shallow)]
      simp only [opens]
      exact phrase?_complete first others closes rest
  | run first others =>
      have taken := leadingWords_append others ends
      rw [List.map_cons, List.cons_append, AcceptedBefore, expression?,
        if_neg (Nat.not_lt_of_le shallow)]
      refine ⟨wordRun first.1 (wordToken first) (others.map wordToken ++ rest), rfl, ?_, ?_⟩
      · simp only [wordRun, taken]
        rfl
      · simp only [wordRun, taken]

/-! ## Whole queries -/

/-- The derivations of a token list, none nested deeper than the limit. -/
def Derives (limit : Nat) (expression : Expression) (tokens : List Token) : Prop :=
  expression.lexemes = tokens.map Token.lexeme ∧ expression.nesting ≤ limit

/-- The parser builds the tree that the tokens denote along a derivation that keeps the
nesting bound. -/
theorem parseTokens_iff_spells {limit : Nat} {tokens : List Token} {tree : Tree} :
    parseTokens limit tokens = .ok tree ↔
      ∃ expression, Spells expression tokens tree ∧ expression.nesting ≤ limit := by
  cases tokens with
  | nil =>
      constructor
      · intro accepted
        cases accepted
      · rintro ⟨expression, spells, _⟩
        exact absurd rfl spells.ne_nil
  | cons token others =>
      constructor
      · intro accepted
        rw [parseTokens] at accepted
        split at accepted
        · cases accepted
        · rename_i parsed found
          split at accepted
          · rename_i all
            cases accepted
            obtain ⟨expression, front, split, spells, within, _⟩ := expression?_sound found
            rw [all, List.append_nil] at split
            rw [Nat.zero_add] at within
            rw [← split] at spells
            exact ⟨expression, spells, within⟩
          · cases accepted
      · rintro ⟨expression, spells, within⟩
        have taken : AcceptedBefore limit (finishSpan (token :: others)) 0
            (token :: others ++ []) [] tree :=
          expression?_complete _ spells endsRun_nil (by rw [Nat.zero_add]; exact within)
        rw [List.append_nil] at taken
        obtain ⟨⟨tree, rest, shorter⟩, accepted, rfl, rfl⟩ := taken
        rw [parseTokens, accepted]

theorem parseTokens_sound {limit : Nat} {tokens : List Token} {tree : Tree}
    (accepted : parseTokens limit tokens = .ok tree) :
    ∃ expression, Derives limit expression tokens ∧ expression.shape = tree.shape := by
  obtain ⟨expression, spells, within⟩ := parseTokens_iff_spells.mp accepted
  exact ⟨expression, ⟨spells.map_lexeme.symm, within⟩, spells.shape.symm⟩

theorem parseTokens_complete {limit : Nat} {expression : Expression} {tokens : List Token}
    (derives : Derives limit expression tokens) :
    ∃ tree, parseTokens limit tokens = .ok tree := by
  obtain ⟨tree, spells⟩ := exists_spells derives.1.symm
  exact ⟨tree, parseTokens_iff_spells.mpr ⟨expression, spells, derives.2⟩⟩

/-- Any derivation is the one the parser found, since no two have the same leaves. -/
theorem parseTokens_shape_iff (limit : Nat) (tokens : List Token) (shape : Shape) :
    (parseTokens limit tokens).map Tree.shape = .ok shape ↔
      ∃ expression, Derives limit expression tokens ∧ expression.shape = shape := by
  constructor
  · intro accepted
    cases found : parseTokens limit tokens with
    | error problem =>
        rw [found] at accepted
        cases accepted
    | ok tree =>
        rw [found] at accepted
        cases accepted
        exact parseTokens_sound found
  · rintro ⟨expression, derives, rfl⟩
    obtain ⟨tree, accepted⟩ := parseTokens_complete derives
    obtain ⟨parsed, parsedDerives, shape⟩ := parseTokens_sound accepted
    have same : expression = parsed :=
      Expression.lexemes_injective (derives.1.trans parsedDerives.1.symm)
    rw [accepted, same, shape]
    rfl

/-- The parser accepts a token list exactly if the grammar derives it within the nesting
bound, the derivation is unique, and the tree is the one it denotes. -/
theorem parseTokens_eq_ok_iff (limit : Nat) (tokens : List Token) :
    (∀ shape, (parseTokens limit tokens).map Tree.shape = .ok shape ↔
      ∃ expression, Derives limit expression tokens ∧ expression.shape = shape) ∧
    {expression : Expression | expression.lexemes = tokens.map Token.lexeme}.Subsingleton := by
  refine ⟨parseTokens_shape_iff limit tokens, fun first firstLeaves second secondLeaves => ?_⟩
  exact Expression.lexemes_injective (firstLeaves.trans secondLeaves.symm)

end Concordance.Query
