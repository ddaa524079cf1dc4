import Concordance.Proofs.Query.Printing
import Concordance.Proofs.Query.Parsing

/-!
Contract: what a lower nesting bound takes away.

Two parsers that differ only in their bound take the same steps until one of them meets a
token that lies too deep. With the lower bound this happens first, so the higher bound shows
in no other way: what the lower one accepts or refuses for any other cause, the higher one
accepts or refuses alike.

Owns:
- refusals that come from the nesting bound;
- the outcomes of a token list under two bounds;
- the depth of the trees that a bound lets through.

Does not own: refusals that do not come from the bound (`Concordance.Proofs.Query.Refusals`).
-/

set_option autoImplicit false

namespace Concordance.Query

/-! ## Outcomes of the bound -/

/-- The outcome is that the tokens are nested too deep, and points at one of them. -/
def IsCutOff {α : Type} (limit : Nat) (tokens : List Token) (outcome : Except ParseError α) :
    Prop :=
  ∃ token ∈ tokens, outcome = .error ⟨.tooDeep limit, some token.span⟩

namespace IsCutOff

variable {α β : Type} {limit : Nat} {tokens others : List Token} {outcome : Except ParseError α}

theorem ne_ok (cutOff : IsCutOff limit tokens outcome) (value : α) : outcome ≠ .ok value := by
  obtain ⟨token, _, same⟩ := cutOff
  rw [same]
  exact nofun

/-- An error that is passed on stays the same. -/
theorem passedOn {error : ParseError} (cutOff : IsCutOff limit tokens outcome)
    (failed : outcome = .error error) (within : tokens ⊆ others) :
    IsCutOff limit others (.error error : Except ParseError β) := by
  obtain ⟨token, member, same⟩ := cutOff
  rw [failed] at same
  cases same
  exact ⟨token, within member, rfl⟩

end IsCutOff

/-! ## Two bounds -/

/-- What two bounds make of the same tokens: the lower one cuts it off, or they agree. -/
def Agrees {α : Type} (limit : Nat) (tokens : List Token) (low high : Except ParseError α) :
    Prop :=
  IsCutOff limit tokens low ∨ high = low

section Agrees

variable {limit higher depth : Nat} {finish : Option Span} {token : Token} {rest : List Token}

/-- What the lower bound accepts, the higher one accepts. -/
theorem Agrees.eq_ok {α : Type} {tokens : List Token} {low high : Except ParseError α} {value : α}
    (agrees : Agrees limit tokens low high) (accepted : low = .ok value) : high = .ok value := by
  rcases agrees with cutOff | same
  · exact absurd accepted (cutOff.ne_ok value)
  · rw [same, accepted]

/-- What the lower bound refuses, the higher one refuses alike, unless it was cut off. -/
theorem Agrees.cutOff_or_eq_error {α β : Type} {tokens others : List Token}
    {low high : Except ParseError α} {error : ParseError} (agrees : Agrees limit tokens low high)
    (refused : low = .error error) (within : tokens ⊆ others) :
    IsCutOff limit others (.error error : Except ParseError β) ∨ high = .error error := by
  rcases agrees with cutOff | same
  · exact .inl (cutOff.passedOn refused within)
  · exact .inr (same.trans refused)

/-- Bounds that agree on what follows an exclamation mark agree on the whole. -/
theorem agrees_of_not (lower : limit ≤ higher) (shallow : ¬limit < depth)
    (lexeme : token.lexeme = .symbol .not)
    (inner : Agrees limit rest (expression? limit finish (depth + 1) rest)
      (expression? higher finish (depth + 1) rest)) :
    Agrees limit (token :: rest) (expression? limit finish depth (token :: rest))
      (expression? higher finish depth (token :: rest)) := by
  rw [expression?, if_neg shallow, expression?, if_neg (by omega)]
  simp only [lexeme]
  cases parsed : expression? limit finish (depth + 1) rest with
  | error problem =>
      refine (inner.cutOff_or_eq_error parsed (List.subset_cons_self _ _)).imp_right fun same => ?_
      rw [same]
  | ok tree => exact .inr (by rw [inner.eq_ok parsed])

/-- Bounds that agree on the left side of a group, and on what follows its operator, agree on
the group. -/
theorem agrees_of_leftParen (lower : limit ≤ higher) (shallow : ¬limit < depth)
    (lexeme : token.lexeme = .symbol .leftParen)
    (left : Agrees limit rest (expression? limit finish (depth + 1) rest)
      (expression? higher finish (depth + 1) rest))
    (right : ∀ operator following, operator :: following <:+ rest →
      Agrees limit following (expression? limit finish (depth + 1) following)
        (expression? higher finish (depth + 1) following)) :
    Agrees limit (token :: rest) (expression? limit finish depth (token :: rest))
      (expression? higher finish depth (token :: rest)) := by
  rw [expression?, if_neg shallow, expression?, if_neg (by omega)]
  simp only [lexeme]
  cases parsedLeft : expression? limit finish (depth + 1) rest with
  | error problem =>
      refine (left.cutOff_or_eq_error parsedLeft (List.subset_cons_self _ _)).imp_right
        fun same => ?_
      rw [same]
  | ok first =>
      have behind := expression?_suffix parsedLeft
      rw [left.eq_ok parsedLeft]
      obtain ⟨tree, others, shorter⟩ := first
      cases others with
      | nil => exact .inr rfl
      | cons operator following =>
          have agrees := right operator following behind
          have within : following ⊆ token :: rest := fun other member =>
            List.mem_cons_of_mem _ (behind.subset (List.mem_cons_of_mem _ member))
          cases connective : operator.connective? with
          | none => exact .inr (by simp only [connective])
          | some joined =>
              simp only [connective]
              cases parsedRight : expression? limit finish (depth + 1) following with
              | error problem =>
                  refine (agrees.cutOff_or_eq_error parsedRight within).imp_right fun same => ?_
                  rw [same]
              | ok second => exact .inr (by rw [agrees.eq_ok parsedRight])

end Agrees

/-- An expression meets the lower bound or is read as under the higher one. The induction is on
the number of tokens, of which the parts of an expression have fewer. -/
theorem expression?_agrees {limit higher : Nat} (lower : limit ≤ higher) (finish : Option Span)
    (depth : Nat) (tokens : List Token) :
    Agrees limit tokens (expression? limit finish depth tokens)
      (expression? higher finish depth tokens) := by
  induction count : tokens.length using Nat.strong_induction_on generalizing depth tokens with
  | _ count inductionHypothesis =>
    subst count
    cases tokens with
    | nil => exact .inr (by rw [expression?, expression?])
    | cons token rest =>
        by_cases deep : limit < depth
        · rw [expression?, if_pos deep]
          exact .inl ⟨token, List.mem_cons_self, rfl⟩
        have inside : ∀ later, later <:+ rest →
            Agrees limit later (expression? limit finish (depth + 1) later)
              (expression? higher finish (depth + 1) later) := fun later behind =>
          inductionHypothesis later.length (Nat.lt_succ_of_le behind.length_le) _ _ rfl
        cases lexeme : token.lexeme with
        | word text =>
            right
            rw [expression?, if_neg (by omega), expression?, if_neg deep]
            simp only [lexeme]
        | symbol symbol =>
            cases symbol with
            | not => exact agrees_of_not lower deep lexeme (inside rest List.suffix_rfl)
            | leftParen =>
                exact agrees_of_leftParen lower deep lexeme (inside rest List.suffix_rfl)
                  fun operator following behind =>
                    inside following ((List.suffix_cons operator following).trans behind)
            | quote
            | and
            | or
            | rightParen =>
                right
                rw [expression?, if_neg (by omega), expression?, if_neg deep]
                simp only [lexeme]

theorem parseTokens_isCutOff_or_eq {limit higher : Nat} (lower : limit ≤ higher)
    (tokens : List Token) :
    IsCutOff limit tokens (parseTokens limit tokens) ∨
      parseTokens limit tokens = parseTokens higher tokens := by
  cases tokens with
  | nil => exact .inr rfl
  | cons first others =>
      rcases expression?_agrees lower (finishSpan (first :: others)) 0
        (first :: others) with cutOff | same
      · left
        rw [parseTokens]
        split
        · rename_i failed
          exact cutOff.passedOn failed (List.Subset.refl _)
        · rename_i parsed found
          exact absurd found (cutOff.ne_ok parsed)
      · right
        rw [parseTokens, parseTokens, same]

/-! ## Depth -/

/-- A node lies at least as deep in the nesting of a shape as in the tree. -/
theorem Tree.depth_le (tree : Tree) : tree.depth ≤ tree.shape.nesting + 1 := by
  induction tree with
  | literal mark content => exact Nat.le_add_left _ _
  | binary mark connective left right leftHypothesis rightHypothesis =>
      rw [Tree.depth, Tree.shape, Shape.nesting]
      omega

theorem depth_le_of_parseTokens {limit : Nat} {tokens : List Token} {tree : Tree}
    (accepted : parseTokens limit tokens = .ok tree) : tree.depth ≤ limit + 1 := by
  obtain ⟨expression, ⟨_, within⟩, same⟩ := parseTokens_sound accepted
  calc tree.depth ≤ tree.shape.nesting + 1 := tree.depth_le
    _ = expression.shape.nesting + 1 := by rw [same]
    _ ≤ expression.nesting + 1 := Nat.succ_le_succ expression.nesting_shape_le
    _ ≤ limit + 1 := Nat.succ_le_succ within

/-- Under a lower nesting bound a token list is refused as nested too deep, at one of its
tokens, or has the very outcome that it has under the higher bound: the same tree at the same
places, or the same error. A tree that a bound lets through is at most one node deeper than
the bound. -/
theorem parseTokens_lower {limit higher : Nat} (lower : limit ≤ higher) (tokens : List Token) :
    ((∃ token ∈ tokens, parseTokens limit tokens = .error ⟨.tooDeep limit, some token.span⟩) ∨
      parseTokens limit tokens = parseTokens higher tokens) ∧
    ∀ tree, parseTokens limit tokens = .ok tree → tree.depth ≤ limit + 1 :=
  ⟨parseTokens_isCutOff_or_eq lower tokens, fun _ accepted => depth_le_of_parseTokens accepted⟩

/-- The tree of `!(a & !b)`, whose last word lies under three symbols. -/
def nestedTree : Tree :=
  .binary ⟨true, ⟨0, 9⟩⟩ .and (.literal ⟨false, ⟨2, 3⟩⟩ ⟨["a"], false⟩)
    (.literal ⟨true, ⟨6, 8⟩⟩ ⟨["b"], false⟩)

/-- Two levels are too few, three are as good as nine. -/
theorem parseTokens_lower_nestedTree :
    2 ≤ 9 ∧ parseTokens 2 (tokenize "!(a & !b)") = .error ⟨.tooDeep 2, some ⟨7, 8⟩⟩ ∧
    3 ≤ 9 ∧ parseTokens 3 (tokenize "!(a & !b)") = .ok nestedTree ∧
    parseTokens 9 (tokenize "!(a & !b)") = .ok nestedTree ∧ nestedTree.depth ≤ 4 := by
  have two : 2 ≤ 9 := by decide
  have three : 3 ≤ 9 := by decide
  have accepted : parseTokens 3 (tokenize "!(a & !b)") = .ok nestedTree := by decide +kernel
  have cutOff : parseTokens 2 (tokenize "!(a & !b)") = .error ⟨.tooDeep 2, some ⟨7, 8⟩⟩ := by
    decide +kernel
  obtain ⟨either, shallow⟩ := parseTokens_lower three (tokenize "!(a & !b)")
  rcases either with ⟨token, _, refused⟩ | same
  · rw [accepted] at refused
    cases refused
  · exact ⟨two, cutOff, three, accepted, same.symm.trans accepted, shallow _ accepted⟩

end Concordance.Query
