import Concordance.Query.Span
import Concordance.Text.LowerCase

/-!
Contract: the tokens of a query.

The characters `&`, `|`, `(`, `)`, `!` and `"` are symbols. A maximal run of
letters is a word and is lowered. Everything else is passed over.

Owns:
- symbols, lexemes and tokens with their spans;
- `next?`, the first token of a text, found in passes each of which either ends
  the search or moves on;
- `nextToken`, which resumes at any byte offset, and `tokenize`.

Does not own: what token sequences mean (`Concordance.Query.Parser`).
-/

set_option autoImplicit false

namespace Concordance.Query

open Concordance.Text (isBlank isLetter lowerCase width)

/-- The operators of the query language. -/
inductive Symbol where
  | and
  | or
  | leftParen
  | rightParen
  | not
  | quote
deriving DecidableEq, Repr

namespace Symbol

/-- The character of a symbol. -/
def char : Symbol → Char
  | and => '&'
  | or => '|'
  | leftParen => '('
  | rightParen => ')'
  | not => '!'
  | quote => '"'

/-- The symbol of a character. -/
def ofChar? (character : Char) : Option Symbol :=
  if character = '&' then some and
  else if character = '|' then some or
  else if character = '(' then some leftParen
  else if character = ')' then some rightParen
  else if character = '!' then some not
  else if character = '"' then some quote
  else none

end Symbol

/-- What a token stands for. -/
inductive Lexeme where
  | symbol (operator : Symbol)
  | word (text : Text)
deriving DecidableEq, Repr

/-- Written form of a lexeme. -/
def Lexeme.render : Lexeme → Text
  | .symbol operator => [operator.char]
  | .word text => text

/-- A lexeme with the place in the query it was read from. -/
structure Token where
  lexeme : Lexeme
  span : Span
deriving DecidableEq, Repr

/-- Whether a token is an operator. -/
def Token.isSymbol (token : Token) : Bool :=
  match token.lexeme with
  | .symbol _ => true
  | .word _ => false

/-- Result of one pass over the text: the end of the text, a token with the text
after it, or the offset and text at which the search goes on. -/
inductive Pass where
  | finished
  | found (token : Token) (rest : Text)
  | skipped (offset : Nat) (rest : Text)
deriving DecidableEq, Repr

/-- Characters that neither belong to a token nor separate tokens. -/
def isJunk (character : Char) : Bool :=
  !isLetter character && !isBlank character && (Symbol.ofChar? character).isNone

/-- One pass: blanks are dropped, and then a symbol is taken, or junk is dropped
and the letters after it are taken. -/
def pass (offset : Nat) (text : Text) : Pass :=
  let start := offset + width (text.takeWhile isBlank)
  match text.dropWhile isBlank with
  | [] => .finished
  | character :: rest =>
      match Symbol.ofChar? character with
      | some symbol =>
          .found ⟨.symbol symbol, ⟨start, start + character.utf8Size⟩⟩ rest
      | none =>
          let run := start + width ((character :: rest).takeWhile isJunk)
          match (character :: rest).dropWhile isJunk with
          | [] => .skipped run []
          | first :: more =>
              if isLetter first then
                let letters := first :: more.takeWhile isLetter
                .found ⟨.word (lowerCase letters), ⟨run, run + width letters⟩⟩
                  (more.dropWhile isLetter)
              else .skipped run (first :: more)

private theorem dropWhile_length_le (keep : Char → Bool) (text : Text) :
    (text.dropWhile keep).length ≤ text.length :=
  (List.dropWhile_sublist keep).length_le

/-- A pass that finds a token takes at least one character. -/
theorem length_lt_of_pass_found {offset : Nat} {text rest : Text} {token : Token}
    (found : pass offset text = .found token rest) : rest.length < text.length := by
  have blanks := dropWhile_length_le isBlank text
  simp only [pass] at found
  split at found
  · cases found
  · rename_i character following split
    rw [split, List.length_cons] at blanks
    split at found
    · cases found; omega
    · have junk := dropWhile_length_le isJunk (character :: following)
      split at found
      · cases found
      · rename_i first more after
        rw [after, List.length_cons, List.length_cons] at junk
        split at found
        · have letters := dropWhile_length_le isLetter more
          cases found; omega
        · cases found

/-- A pass that goes on takes at least one character. -/
theorem length_lt_of_pass_skipped {offset next : Nat} {text rest : Text}
    (skipped : pass offset text = .skipped next rest) : rest.length < text.length := by
  have blanks := dropWhile_length_le isBlank text
  simp only [pass] at skipped
  split at skipped
  · cases skipped
  · rename_i character following split
    rw [split, List.length_cons] at blanks
    have notBlank : isBlank character = false := by
      have head := List.head?_dropWhile_not isBlank text
      simpa [split] using head
    split at skipped
    · cases skipped
    · rename_i notSymbol
      split at skipped
      · cases skipped; simp; omega
      · rename_i first more after
        split at skipped
        · cases skipped
        · rename_i notLetter
          cases skipped
          by_cases letter : isLetter character = true
          · have kept : (character :: following).dropWhile isJunk
                = character :: following := by
              simp [isJunk, letter]
            rw [kept] at after
            cases after
            exact absurd letter notLetter
          · have junk : isJunk character = true := by
              simp [isJunk, letter, notBlank, notSymbol]
            have dropped : (character :: following).dropWhile isJunk
                = following.dropWhile isJunk := by
              simp [junk]
            have shorter := dropWhile_length_le isJunk following
            rw [← dropped, after] at shorter
            omega

/-- The first token of `text`, whose first byte has number `offset`, with the
text after it. -/
def next? (offset : Nat) (text : Text) : Option (Token × Text) :=
  match _result : pass offset text with
  | .finished => none
  | .found token rest => some (token, rest)
  | .skipped next rest => next? next rest
termination_by text.length
decreasing_by exact length_lt_of_pass_skipped _result

/-- The text after a token is shorter than the text before it. -/
theorem length_lt_of_next? {offset : Nat} {text rest : Text} {token : Token}
    (found : next? offset text = some (token, rest)) : rest.length < text.length := by
  fun_induction next? offset text with
  | case1 => cases found
  | case2 offset text token rest result =>
      cases found
      exact length_lt_of_pass_found result
  | case3 offset text next remaining result inductionHypothesis =>
      exact Nat.lt_trans (inductionHypothesis found) (length_lt_of_pass_skipped result)

/-- The tokens of `text`, whose first byte has number `offset`. -/
def tokensFrom (offset : Nat) (text : Text) : List Token :=
  match _result : next? offset text with
  | none => []
  | some (token, rest) => token :: tokensFrom token.span.stop rest
termination_by text.length
decreasing_by exact length_lt_of_next? _result

/-- The tokens of a query. -/
def tokenize (query : Text) : List Token := tokensFrom 0 query

/-- The token that starts at or after a byte offset. An offset past the end, or
inside a character, is the end of the query. -/
def nextToken (query : Text) (offset : Nat) : Option Token :=
  (query.dropBytes? offset).bind fun rest => (next? offset rest).map (·.1)

end Concordance.Query
