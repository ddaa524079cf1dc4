import Concordance.Query.Token
import Concordance.Query.Tree

/-!
Contract: the grammar of queries.

    expression := '(' expression ('&' | '|') expression ')'
                | '!' expression
                | '"' word+ '"'
                | word+

An `Expression` is a derivation in this grammar, with one constructor for each
alternative. The tokens it derives are its leaves from left to right.

Owns:
- derivations, their leaves, how deep they are nested, whether they end in a run of words
  and what tree they denote;
- that no two derivations have the same leaves.

Does not own: which derivations the parser finds (`Concordance.Proofs.Query.Parsing`).
-/

set_option autoImplicit false

namespace Concordance.Query

/-- A derivation of an expression. The words of the last two alternatives are a first
one and the others. -/
inductive Expression where
  | group (connective : Connective) (left right : Expression)
  | not (inner : Expression)
  | phrase (first : Text) (others : List Text)
  | run (first : Text) (others : List Text)
deriving DecidableEq, Repr

/-- The operator that stands for a connective. -/
def Connective.symbol : Connective → Symbol
  | .and => .and
  | .or => .or

/-- A tree without the places it was read from. -/
inductive Shape where
  | literal (negated : Bool) (content : Literal)
  | binary (negated : Bool) (connective : Connective) (left right : Shape)
deriving DecidableEq, Repr

/-- The shape of a tree. -/
def Tree.shape : Tree → Shape
  | .literal mark content => .literal mark.negated content
  | .binary mark connective left right =>
      .binary mark.negated connective left.shape right.shape

namespace Expression

/-- The leaves of a derivation. -/
def lexemes : Expression → List Lexeme
  | group connective left right =>
      .symbol .leftParen :: (left.lexemes
        ++ .symbol connective.symbol :: (right.lexemes ++ [.symbol .rightParen]))
  | not inner => .symbol .not :: inner.lexemes
  | phrase first others =>
      .symbol .quote :: ((first :: others).map .word ++ [.symbol .quote])
  | run first others => (first :: others).map .word

/-- The largest number of parentheses and exclamation marks that an expression in a
derivation lies under. -/
def nesting : Expression → Nat
  | group _ left right => max left.nesting right.nesting + 1
  | not inner => inner.nesting + 1
  | phrase _ _ => 0
  | run _ _ => 0

/-- Whether the leaves of a derivation end in a run of words, which a further word would
prolong. -/
def endsInRun : Expression → Bool
  | group _ _ _ => false
  | not inner => inner.endsInRun
  | phrase _ _ => false
  | run _ _ => true

/-- The shape a derivation denotes behind `marks` exclamation marks: a node is negated
if the number of exclamation marks directly in front of it is odd. -/
def shapeBehind (marks : Nat) : Expression → Shape
  | group connective left right =>
      .binary (marks % 2 == 1) connective (left.shapeBehind 0) (right.shapeBehind 0)
  | not inner => inner.shapeBehind (marks + 1)
  | phrase first others => .literal (marks % 2 == 1) ⟨first :: others, true⟩
  | run first others => .literal (marks % 2 == 1) ⟨first :: others, false⟩

/-- The shape a derivation denotes. -/
def shape (expression : Expression) : Shape := expression.shapeBehind 0

end Expression

/-! ## Negation -/

/-- The shape with the opposite meaning. -/
def Shape.negate : Shape → Shape
  | .literal negated content => .literal (!negated) content
  | .binary negated connective left right => .binary (!negated) connective left right

theorem Tree.shape_negate (tree : Tree) (span : Span) :
    (tree.negate span).shape = tree.shape.negate := by
  cases tree <;> rfl

theorem odd_succ (marks : Nat) : ((marks + 1) % 2 == 1) = !(marks % 2 == 1) := by
  rcases Nat.mod_two_eq_zero_or_one marks with even | odd
  · rw [Nat.add_mod, even]
    rfl
  · rw [Nat.add_mod, odd]
    rfl

/-- One more exclamation mark negates once more. -/
theorem Expression.shapeBehind_succ (expression : Expression) (marks : Nat) :
    expression.shapeBehind (marks + 1) = (expression.shapeBehind marks).negate := by
  induction expression generalizing marks with
  | group _ _ _ _ _ => rw [shapeBehind, shapeBehind, Shape.negate, odd_succ]
  | not inner inductionHypothesis => exact inductionHypothesis (marks + 1)
  | phrase _ _ => rw [shapeBehind, shapeBehind, Shape.negate, odd_succ]
  | run _ _ => rw [shapeBehind, shapeBehind, Shape.negate, odd_succ]

/-! ## Leaves determine the derivation -/

/-- Leaves that do not go on with a word. -/
def EndsRun (lexemes : List Lexeme) : Prop := ∀ text rest, lexemes ≠ .word text :: rest

theorem endsRun_nil : EndsRun [] := fun _ _ same => by cases same

theorem endsRun_symbol (symbol : Symbol) (rest : List Lexeme) :
    EndsRun (.symbol symbol :: rest) := fun _ _ same => by cases same

/-- Two runs of words that both end where the words end are the same. -/
theorem words_append_inj {first second : List Text} {left right : List Lexeme}
    (leftEnds : EndsRun left) (rightEnds : EndsRun right)
    (same : first.map Lexeme.word ++ left = second.map Lexeme.word ++ right) :
    first = second ∧ left = right := by
  induction first generalizing second with
  | nil =>
      cases second with
      | nil => exact ⟨rfl, same⟩
      | cons text rest => exact absurd same (leftEnds text _)
  | cons text rest inductionHypothesis =>
      cases second with
      | nil => exact absurd same.symm (rightEnds text _)
      | cons other others =>
          rw [List.map_cons, List.map_cons, List.cons_append, List.cons_append,
            List.cons.injEq, Lexeme.word.injEq] at same
          obtain ⟨restSame, leftSame⟩ := inductionHypothesis same.2
          exact ⟨by rw [same.1, restSame], leftSame⟩

theorem Connective.symbol_injective {first second : Connective}
    (same : first.symbol = second.symbol) : first = second := by
  cases first with
  | and =>
      cases second with
      | and => rfl
      | or => cases same
  | or =>
      cases second with
      | and => cases same
      | or => rfl

/-- A derivation is found again at the front of any longer list, as long as the list
does not go on with a word behind a run. -/
theorem Expression.lexemes_append_inj {first second : Expression} {left right : List Lexeme}
    (leftEnds : first.endsInRun = true → EndsRun left)
    (rightEnds : second.endsInRun = true → EndsRun right)
    (same : first.lexemes ++ left = second.lexemes ++ right) :
    first = second ∧ left = right := by
  induction first generalizing second left right with
  | group connective inner other innerHypothesis otherHypothesis =>
      cases second with
      | group connective' inner' other' =>
          simp only [lexemes, List.cons_append, List.append_assoc, List.cons.injEq,
            true_and] at same
          obtain ⟨rfl, rest⟩ := innerHypothesis (fun _ => endsRun_symbol _ _)
            (fun _ => endsRun_symbol _ _) same
          rw [List.cons.injEq, Lexeme.symbol.injEq] at rest
          obtain ⟨rfl, closing⟩ := otherHypothesis (fun _ => endsRun_symbol _ _)
            (fun _ => endsRun_symbol _ _) rest.2
          rw [List.cons.injEq] at closing
          rw [Connective.symbol_injective rest.1]
          exact ⟨rfl, closing.2⟩
      | not _ => simp [lexemes] at same
      | phrase _ _ => simp [lexemes] at same
      | run _ _ => simp [lexemes] at same
  | not inner inductionHypothesis =>
      cases second with
      | not inner' =>
          have innerEnds : inner'.endsInRun = true → EndsRun right := rightEnds
          rw [lexemes, lexemes, List.cons_append, List.cons_append, List.cons.injEq] at same
          obtain ⟨rfl, rest⟩ := inductionHypothesis leftEnds innerEnds same.2
          exact ⟨rfl, rest⟩
      | group _ _ _ => simp [lexemes] at same
      | phrase _ _ => simp [lexemes] at same
      | run _ _ => simp [lexemes] at same
  | phrase word others =>
      cases second with
      | phrase word' others' =>
          simp only [lexemes, List.cons_append, List.append_assoc, List.nil_append,
            List.cons.injEq, true_and] at same
          obtain ⟨words, closing⟩ :=
            words_append_inj (endsRun_symbol _ _) (endsRun_symbol _ _) same
          cases words
          cases closing
          exact ⟨rfl, rfl⟩
      | group _ _ _ => simp [lexemes] at same
      | not _ => simp [lexemes] at same
      | run _ _ => simp [lexemes] at same
  | run word others =>
      cases second with
      | run word' others' =>
          obtain ⟨words, rest⟩ := words_append_inj (leftEnds rfl) (rightEnds rfl) same
          cases words
          exact ⟨rfl, rest⟩
      | group _ _ _ => simp [lexemes] at same
      | not _ => simp [lexemes] at same
      | phrase _ _ => simp [lexemes] at same

/-- No two derivations have the same leaves. -/
theorem Expression.lexemes_injective : Function.Injective Expression.lexemes := by
  intro first second same
  have extended : first.lexemes ++ [] = second.lexemes ++ [] := by
    rw [List.append_nil, List.append_nil]
    exact same
  exact (Expression.lexemes_append_inj (fun _ => endsRun_nil) (fun _ => endsRun_nil)
    extended).1

end Concordance.Query
