import Concordance.Proofs.Query.Grammar

/-!
Contract: tokens that spell a derivation.

The leaves of a derivation say nothing of places. Tokens do, and a derivation that tokens
spell denotes a tree whose nodes carry the places of their tokens: a node reaches from its
first token to its last one, the exclamation marks in front of it included.

Owns:
- the tree that tokens denote along a derivation;
- that the tree has the shape of the derivation;
- that any tokens with the leaves of a derivation spell it.

Does not own: which tokens the parser takes (`Concordance.Proofs.Query.Parsing`).
-/

set_option autoImplicit false

namespace Concordance.Query

/-- A word with its place as a token. -/
def wordToken (word : Text × Span) : Token := ⟨.word word.1, word.2⟩

/-- Tokens are the leaves of a derivation, which denotes the tree at their places. -/
inductive Spells : Expression → List Token → Tree → Prop where
  | group {connective : Connective} {left right : Expression}
      {opening operator closing : Token} {leftTokens rightTokens : List Token}
      {leftTree rightTree : Tree}
      (opens : opening.lexeme = .symbol .leftParen)
      (first : Spells left leftTokens leftTree)
      (joins : operator.lexeme = .symbol connective.symbol)
      (second : Spells right rightTokens rightTree)
      (closes : closing.lexeme = .symbol .rightParen) :
      Spells (.group connective left right)
        (opening :: (leftTokens ++ operator :: (rightTokens ++ [closing])))
        (.binary ⟨false, opening.span.join closing.span⟩ connective leftTree rightTree)
  | not {inner : Expression} {mark : Token} {tokens : List Token} {tree : Tree}
      (negates : mark.lexeme = .symbol .not) (spells : Spells inner tokens tree) :
      Spells (.not inner) (mark :: tokens) (tree.negate (mark.span.join tree.mark.span))
  | phrase {opening closing : Token} (opens : opening.lexeme = .symbol .quote)
      (first : Text × Span) (others : List (Text × Span))
      (closes : closing.lexeme = .symbol .quote) :
      Spells (.phrase first.1 (others.map (·.1)))
        (opening :: ((first :: others).map wordToken ++ [closing]))
        (.literal ⟨false, opening.span.join closing.span⟩
          ⟨(first :: others).map (·.1), true⟩)
  | run (first : Text × Span) (others : List (Text × Span)) :
      Spells (.run first.1 (others.map (·.1))) ((first :: others).map wordToken)
        (.literal ⟨false, others.foldl (fun span word => span.join word.2) first.2⟩
          ⟨(first :: others).map (·.1), false⟩)

theorem map_lexeme_wordToken (words : List (Text × Span)) :
    (words.map wordToken).map Token.lexeme = (words.map (·.1)).map Lexeme.word := by
  rw [List.map_map, List.map_map]
  rfl

/-- Tokens whose lexemes are words are words with their places. -/
theorem exists_words {tokens : List Token} {texts : List Text}
    (leaves : tokens.map Token.lexeme = texts.map Lexeme.word) :
    ∃ words : List (Text × Span), tokens = words.map wordToken ∧ words.map (·.1) = texts := by
  induction tokens generalizing texts with
  | nil =>
      cases texts with
      | nil => exact ⟨[], rfl, rfl⟩
      | cons text texts => cases leaves
  | cons token tokens inductionHypothesis =>
      cases texts with
      | nil => cases leaves
      | cons text texts =>
          rw [List.map_cons, List.map_cons, List.cons.injEq] at leaves
          obtain ⟨words, rfl, rfl⟩ := inductionHypothesis leaves.2
          have spelled : token = wordToken (text, token.span) := by
            rw [wordToken, ← leaves.1]
          exact ⟨(text, token.span) :: words, by rw [List.map_cons, ← spelled], rfl⟩

namespace Spells

variable {expression : Expression} {tokens : List Token} {tree : Tree}

theorem map_lexeme (spells : Spells expression tokens tree) :
    tokens.map Token.lexeme = expression.lexemes := by
  induction spells with
  | group opens first joins second closes firstHypothesis secondHypothesis =>
      rw [List.map_cons, List.map_append, List.map_cons, List.map_append,
        List.map_singleton, opens, firstHypothesis, joins, secondHypothesis, closes,
        Expression.lexemes]
  | not negates spells inductionHypothesis =>
      rw [List.map_cons, negates, inductionHypothesis, Expression.lexemes]
  | phrase opens first others closes =>
      rw [List.map_cons, List.map_append, List.map_singleton, opens, map_lexeme_wordToken,
        closes, Expression.lexemes, List.map_cons]
  | run first others => rw [map_lexeme_wordToken, Expression.lexemes, List.map_cons]

theorem shape (spells : Spells expression tokens tree) : tree.shape = expression.shape := by
  induction spells with
  | group opens first joins second closes firstHypothesis secondHypothesis =>
      rw [Tree.shape, firstHypothesis, secondHypothesis]
      rfl
  | not negates spells inductionHypothesis =>
      rw [Tree.shape_negate, inductionHypothesis]
      exact (Expression.shapeBehind_succ _ 0).symm
  | phrase opens first others closes => rfl
  | run first others => rfl

/-- No derivation is spelled by nothing. -/
theorem ne_nil (spells : Spells expression tokens tree) : tokens ≠ [] := by
  cases spells <;> exact List.cons_ne_nil _ _

end Spells

/-- Tokens with the leaves of a derivation spell it. -/
theorem exists_spells {expression : Expression} {tokens : List Token}
    (leaves : tokens.map Token.lexeme = expression.lexemes) :
    ∃ tree, Spells expression tokens tree := by
  induction expression generalizing tokens with
  | group connective left right leftHypothesis rightHypothesis =>
      obtain ⟨opening, tokens, rfl, opens, leaves⟩ := List.map_eq_cons_iff.mp leaves
      obtain ⟨leftTokens, tokens, rfl, leftLeaves, leaves⟩ := List.map_eq_append_iff.mp leaves
      obtain ⟨operator, tokens, rfl, joins, leaves⟩ := List.map_eq_cons_iff.mp leaves
      obtain ⟨rightTokens, tokens, rfl, rightLeaves, leaves⟩ :=
        List.map_eq_append_iff.mp leaves
      obtain ⟨closing, rfl, closes⟩ := List.map_eq_singleton_iff.mp leaves
      obtain ⟨leftTree, first⟩ := leftHypothesis leftLeaves
      obtain ⟨rightTree, second⟩ := rightHypothesis rightLeaves
      exact ⟨_, .group opens first joins second closes⟩
  | not inner inductionHypothesis =>
      obtain ⟨mark, tokens, rfl, negates, leaves⟩ := List.map_eq_cons_iff.mp leaves
      obtain ⟨tree, spells⟩ := inductionHypothesis leaves
      exact ⟨_, .not negates spells⟩
  | phrase first others =>
      obtain ⟨opening, tokens, rfl, opens, leaves⟩ := List.map_eq_cons_iff.mp leaves
      obtain ⟨front, tokens, rfl, texts, leaves⟩ := List.map_eq_append_iff.mp leaves
      obtain ⟨closing, rfl, closes⟩ := List.map_eq_singleton_iff.mp leaves
      obtain ⟨words, rfl, same⟩ := exists_words texts
      obtain ⟨word, words, rfl, rfl, rfl⟩ := List.map_eq_cons_iff.mp same
      exact ⟨_, .phrase opens word words closes⟩
  | run first others =>
      obtain ⟨words, rfl, same⟩ := exists_words leaves
      obtain ⟨word, words, rfl, rfl, rfl⟩ := List.map_eq_cons_iff.mp same
      exact ⟨_, .run word words⟩

end Concordance.Query
