import Concordance.Query.Token
import Concordance.Query.Tree

/-!
Contract: reading a query tree from tokens.

    expression := '(' expression ('&' | '|') expression ')'
                | '!' expression
                | '"' word+ '"'
                | word+

A query is exactly one expression. Every expression lies under a bounded number
of parentheses and exclamation marks.

Owns:
- the causes of a refusal, their wording and the span they point at;
- `expression?`, which takes one expression off the front of a token list;
- `parseTokens` and `parse`.

Does not own: printing a tree (`Concordance.Query.Tree`).
-/

set_option autoImplicit false

namespace Concordance.Query

/-- Why a token list is no query. -/
inductive Problem where
  | emptyQuery
  | unexpectedEnd
  | tooDeep (limit : Nat)
  | unexpectedOperator (found : Lexeme)
  | expectedOperator (found : Lexeme)
  | missingOperator
  | expectedClose (found : Lexeme)
  | missingClose
  | emptyPhrase
  | operatorInPhrase (found : Lexeme)
  | missingQuote
  | trailingInput (found : Lexeme)
deriving DecidableEq, Repr

/-- Wording of a problem. -/
def Problem.message : Problem → Text
  | emptyQuery => "empty query"
  | unexpectedEnd => "unexpected end of query, expected an expression"
  | tooDeep limit =>
      Text.concat ["query is nested more than ", Text.decimal limit, " levels deep"]
  | unexpectedOperator found =>
      Text.concat ["unexpected operator '", found.render, "', expected an expression"]
  | expectedOperator found =>
      Text.concat ["expected '&' or '|' but found '", found.render, "'"]
  | missingOperator => "missing '&' or '|' inside parentheses"
  | expectedClose found =>
      Text.concat ["expected ')' but found '", found.render, "'"]
  | missingClose => "missing closing ')'"
  | emptyPhrase => "empty phrase"
  | operatorInPhrase found =>
      Text.concat ["operator '", found.render, "' is not allowed inside a phrase"]
  | missingQuote => "missing closing quote"
  | trailingInput found =>
      Text.concat
        ["unexpected trailing input at '", found.render,
          "' (wrap binary operators in parentheses)"]

/-- A problem and the part of the query it concerns. An empty query has none. -/
structure ParseError where
  problem : Problem
  span : Option Span
deriving DecidableEq, Repr

/-- An expression taken off the front of `tokens`, with the tokens after it. -/
structure Parsed (tokens : List Token) where
  tree : Tree
  rest : List Token
  shorter : rest.length < tokens.length

/-- The words at the front of a token list with their spans, and the tokens after
them. -/
def leadingWords : List Token → List (Text × Span) × List Token
  | [] => ([], [])
  | token :: rest =>
      match token.lexeme with
      | .word text =>
          ((text, token.span) :: (leadingWords rest).1, (leadingWords rest).2)
      | .symbol _ => ([], token :: rest)

theorem length_leadingWords_le (tokens : List Token) :
    (leadingWords tokens).2.length ≤ tokens.length := by
  induction tokens with
  | nil => simp [leadingWords]
  | cons token rest inductionHypothesis =>
      unfold leadingWords
      split
      · exact Nat.le_succ_of_le inductionHypothesis
      · exact Nat.le_refl _

/-- The connective of a token, if it is one. -/
def Token.connective? (token : Token) : Option Connective :=
  match token.lexeme with
  | .symbol .and => some .and
  | .symbol .or => some .or
  | _ => none

/-- The rest of a phrase whose opening quote is `quote`. -/
def phrase? (quote : Token) (tokens : List Token) :
    Except ParseError (Parsed (quote :: tokens)) :=
  match after : (leadingWords tokens).2 with
  | [] => .error ⟨.missingQuote, some quote.span⟩
  | close :: rest =>
      if close.lexeme = .symbol .quote then
        match (leadingWords tokens).1 with
        | [] => .error ⟨.emptyPhrase, some (quote.span.join close.span)⟩
        | words =>
            .ok ⟨.literal ⟨false, quote.span.join close.span⟩ ⟨words.map (·.1), true⟩,
              rest, by
                have bound := length_leadingWords_le tokens
                rw [after, List.length_cons] at bound
                rw [List.length_cons]; omega⟩
      else .error ⟨.operatorInPhrase close.lexeme, some close.span⟩

/-- The run of words that begins with `text`, which `token` stands for. -/
def wordRun (text : Text) (token : Token) (tokens : List Token) :
    Parsed (token :: tokens) :=
  let run := leadingWords tokens
  ⟨.literal ⟨false, run.1.foldl (fun span word => span.join word.2) token.span⟩
      ⟨text :: run.1.map (·.1), false⟩,
    run.2, Nat.lt_succ_of_le (length_leadingWords_le tokens)⟩

/-- Takes one expression off the front of a token list. `finish` is the empty span
at the end of the query, and `depth` counts the parentheses and exclamation marks
the expression lies under, of which there may be `limit`. -/
def expression? (limit : Nat) (finish : Option Span) (depth : Nat)
    (tokens : List Token) : Except ParseError (Parsed tokens) :=
  match tokens with
  | [] => .error ⟨.unexpectedEnd, finish⟩
  | token :: rest =>
      if limit < depth then .error ⟨.tooDeep limit, some token.span⟩
      else
        match token.lexeme with
        | .word text => .ok (wordRun text token rest)
        | .symbol .quote => phrase? token rest
        | .symbol .not =>
            match expression? limit finish (depth + 1) rest with
            | .error problem => .error problem
            | .ok inner =>
                .ok ⟨inner.tree.negate (token.span.join inner.tree.mark.span),
                  inner.rest, Nat.lt_succ_of_lt inner.shorter⟩
        | .symbol .leftParen =>
            match expression? limit finish (depth + 1) rest with
            | .error problem => .error problem
            | .ok left =>
                match afterLeft : left.rest with
                | [] => .error ⟨.missingOperator, some token.span⟩
                | operator :: following =>
                    match operator.connective? with
                    | none =>
                        .error ⟨.expectedOperator operator.lexeme, some operator.span⟩
                    | some connective =>
                        match expression? limit finish (depth + 1) following with
                        | .error problem => .error problem
                        | .ok right =>
                            match afterRight : right.rest with
                            | [] => .error ⟨.missingClose, some token.span⟩
                            | close :: remaining =>
                                if close.lexeme = .symbol .rightParen then
                                  .ok ⟨.binary ⟨false, token.span.join close.span⟩
                                      connective left.tree right.tree,
                                    remaining, by
                                      have first := left.shorter
                                      have second := right.shorter
                                      rw [afterLeft, List.length_cons] at first
                                      rw [afterRight, List.length_cons] at second
                                      rw [List.length_cons]; omega⟩
                                else
                                  .error ⟨.expectedClose close.lexeme, some close.span⟩
        | .symbol _ =>
            .error ⟨.unexpectedOperator token.lexeme, some token.span⟩
termination_by tokens.length
decreasing_by
  · simp
  · simp
  · have first := left.shorter
    rw [afterLeft, List.length_cons] at first
    rw [List.length_cons]; omega

/-- The empty span after the last token. -/
def finishSpan (tokens : List Token) : Option Span :=
  tokens.getLast?.map fun token => ⟨token.span.stop, token.span.stop⟩

/-- The tree of a token list. -/
def parseTokens (limit : Nat) (tokens : List Token) : Except ParseError Tree :=
  match tokens with
  | [] => .error ⟨.emptyQuery, none⟩
  | first :: others =>
      match expression? limit (finishSpan (first :: others)) 0 (first :: others) with
      | .error problem => .error problem
      | .ok parsed =>
          match parsed.rest with
          | [] => .ok parsed.tree
          | extra :: _ => .error ⟨.trailingInput extra.lexeme, some extra.span⟩

/-- The tree of a query. -/
def parse (limit : Nat) (query : Text) : Except ParseError Tree :=
  parseTokens limit (tokenize query)

/-- The nesting bound where none is given. -/
def defaultDepthLimit : Nat := 256

end Concordance.Query
