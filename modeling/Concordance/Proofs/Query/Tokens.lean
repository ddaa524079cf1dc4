import Concordance.Proofs.Text.Words
import Concordance.Proofs.Text.CharClass
import Concordance.Query.Token

/-!
Contract: a query read from left to right, and its words.

The search for tokens passes over blanks and junk in different ways and may take several
passes to the next token. Seen from the outside it has four rules, one for the empty
text, one for a symbol, one for a run of letters and one for any other character.

Owns:
- the rules of the search for tokens;
- that the tokens of a text are those of its parts;
- that a text has the same tokens wherever it stands, but for their places;
- the lexemes of a text, which do not depend on its place;
- that the words of a query are the words of the same text.

Does not own: what sequences of tokens mean.
-/

set_option autoImplicit false

namespace Concordance.Query

open Concordance.Text (EndsLetters IsRun isBlank isBlank_eq_false_of_isLetter isLetter
  lowerCase width)

/-! ## Symbols -/

theorem Symbol.eq_char_of_ofChar? {character : Char} {symbol : Symbol}
    (found : Symbol.ofChar? character = some symbol) : character = symbol.char := by
  unfold Symbol.ofChar? at found
  split_ifs at found with and or leftParen rightParen not quote
  all_goals
    cases found
    assumption

theorem Symbol.ofChar?_char (symbol : Symbol) : Symbol.ofChar? symbol.char = some symbol := by
  cases symbol <;> rfl

theorem Symbol.isLetter_char (symbol : Symbol) : isLetter symbol.char = false := by
  cases symbol <;> decide +kernel

theorem Symbol.isBlank_char (symbol : Symbol) : isBlank symbol.char = false := by
  cases symbol <;> decide +kernel

/-- No letter is a symbol. -/
theorem ofChar?_eq_none_of_isLetter {character : Char} (letter : isLetter character = true) :
    Symbol.ofChar? character = none := by
  cases found : Symbol.ofChar? character with
  | none => rfl
  | some symbol =>
      rw [Symbol.eq_char_of_ofChar? found, symbol.isLetter_char] at letter
      cases letter

theorem isJunk_eq_false_of_isLetter {character : Char} (letter : isLetter character = true) :
    isJunk character = false := by
  rw [isJunk, letter]
  rfl

/-! ## Single passes -/

/-- How a pass goes on behind the junk that it drops. -/
def afterJunk (offset : Nat) : Text → Pass
  | [] => .skipped offset []
  | first :: more =>
      if isLetter first then
        let letters := first :: more.takeWhile isLetter
        .found ⟨.word (lowerCase letters), ⟨offset, offset + width letters⟩⟩
          (more.dropWhile isLetter)
      else .skipped offset (first :: more)

section Pass

variable {character : Char} {offset : Nat} {rest : Text}

theorem pass_blank (blank : isBlank character = true) :
    pass offset (character :: rest) = pass (offset + character.utf8Size) rest := by
  simp only [pass, List.takeWhile_cons_of_pos blank, List.dropWhile_cons_of_pos blank,
    Text.width_cons, Nat.add_assoc]

theorem pass_symbol {symbol : Symbol} (found : Symbol.ofChar? character = some symbol) :
    pass offset (character :: rest)
      = .found ⟨.symbol symbol, ⟨offset, offset + character.utf8Size⟩⟩ rest := by
  have notBlank : ¬isBlank character = true := by
    rw [Symbol.eq_char_of_ofChar? found, symbol.isBlank_char]
    decide
  simp only [pass, List.takeWhile_cons_of_neg notBlank, List.dropWhile_cons_of_neg notBlank,
    found, Text.width_nil, Nat.add_zero]

theorem pass_other (notBlank : isBlank character = false)
    (notSymbol : Symbol.ofChar? character = none) :
    pass offset (character :: rest)
      = afterJunk (offset + width ((character :: rest).takeWhile isJunk))
          ((character :: rest).dropWhile isJunk) := by
  have notBlank : ¬isBlank character = true := by
    rw [notBlank]
    decide
  simp only [pass, List.takeWhile_cons_of_neg notBlank, List.dropWhile_cons_of_neg notBlank,
    notSymbol, Text.width_nil, Nat.add_zero]
  cases (character :: rest).dropWhile isJunk <;> rfl

end Pass

/-! ## The next token -/

theorem next?_of_finished {offset : Nat} {text : Text} (result : pass offset text = .finished) :
    next? offset text = none := by
  rw [next?]
  split
  · rfl
  · rename_i other
    rw [result] at other
    cases other
  · rename_i other
    rw [result] at other
    cases other

theorem next?_of_found {offset : Nat} {text rest : Text} {token : Token}
    (result : pass offset text = .found token rest) :
    next? offset text = some (token, rest) := by
  rw [next?]
  split
  · rename_i other
    rw [result] at other
    cases other
  · rename_i other
    rw [result] at other
    cases other
    rfl
  · rename_i other
    rw [result] at other
    cases other

theorem next?_of_skipped {offset next : Nat} {text rest : Text}
    (result : pass offset text = .skipped next rest) :
    next? offset text = next? next rest := by
  rw [next?]
  split
  · rename_i other
    rw [result] at other
    cases other
  · rename_i other
    rw [result] at other
    cases other
  · rename_i other
    rw [result] at other
    cases other
    rfl

/-- The search depends on the text and its offset only through the first pass. -/
theorem next?_congr {offset other : Nat} {text otherText : Text}
    (same : pass offset text = pass other otherText) :
    next? offset text = next? other otherText := by
  cases result : pass other otherText with
  | finished => rw [next?_of_finished (same.trans result), next?_of_finished result]
  | found token rest => rw [next?_of_found (same.trans result), next?_of_found result]
  | skipped next rest => rw [next?_of_skipped (same.trans result), next?_of_skipped result]

section Next

variable {character : Char}

theorem next?_nil (offset : Nat) : next? offset [] = none :=
  next?_of_finished rfl

theorem next?_symbol {symbol : Symbol} (found : Symbol.ofChar? character = some symbol)
    (offset : Nat) (rest : Text) :
    next? offset (character :: rest)
      = some (⟨.symbol symbol, ⟨offset, offset + character.utf8Size⟩⟩, rest) :=
  next?_of_found (pass_symbol found)

/-- Junk in front of a text is passed over with the junk behind it, and on its own
otherwise. -/
theorem next?_junk (junk : isJunk character = true) (offset : Nat) (rest : Text) :
    next? offset (character :: rest) = next? (offset + character.utf8Size) rest := by
  have kind := junk
  simp only [isJunk, Bool.and_eq_true, Bool.not_eq_true', Option.isNone_iff_eq_none] at kind
  obtain ⟨⟨_, notBlank⟩, notSymbol⟩ := kind
  have first : pass offset (character :: rest)
      = afterJunk (offset + width ((character :: rest).takeWhile isJunk))
          ((character :: rest).dropWhile isJunk) := pass_other notBlank notSymbol
  rw [List.takeWhile_cons_of_pos junk, List.dropWhile_cons_of_pos junk, Text.width_cons,
    ← Nat.add_assoc] at first
  cases rest with
  | nil => exact next?_of_skipped first
  | cons head more =>
      by_cases goesOn : isBlank head = false ∧ Symbol.ofChar? head = none
      · -- A pass that begins behind the first character drops the same junk.
        refine next?_congr (first.trans ?_)
        rw [pass_other goesOn.1 goesOn.2]
      · have notJunk : ¬isJunk head = true := by
          simp only [isJunk, Bool.and_eq_true, Bool.not_eq_true', Option.isNone_iff_eq_none]
          rintro ⟨⟨_, blank⟩, symbol⟩
          exact goesOn ⟨blank, symbol⟩
        have notLetter : ¬isLetter head = true := fun letter =>
          goesOn ⟨isBlank_eq_false_of_isLetter letter, ofChar?_eq_none_of_isLetter letter⟩
        rw [List.takeWhile_cons_of_neg notJunk, List.dropWhile_cons_of_neg notJunk,
          Text.width_nil, Nat.add_zero, afterJunk, if_neg notLetter] at first
        exact next?_of_skipped first

/-- What is neither a letter nor a symbol is passed over. -/
theorem next?_separator (separator : isLetter character = false)
    (notSymbol : Symbol.ofChar? character = none) (offset : Nat) (rest : Text) :
    next? offset (character :: rest) = next? (offset + character.utf8Size) rest := by
  cases blank : isBlank character with
  | true => exact next?_congr (pass_blank blank)
  | false =>
      refine next?_junk ?_ offset rest
      rw [isJunk, separator, blank, notSymbol]
      rfl

theorem next?_run {run rest : Text} (isRun : IsRun run) (ends : EndsLetters rest)
    (offset : Nat) :
    next? offset (run ++ rest)
      = some (⟨.word (lowerCase run), ⟨offset, offset + width run⟩⟩, rest) := by
  obtain ⟨letter, others, rfl, first, letters⟩ := isRun.exists_cons
  have notJunk : ¬isJunk letter = true := by
    rw [isJunk_eq_false_of_isLetter first]
    decide
  apply next?_of_found
  rw [List.cons_append, pass_other (isBlank_eq_false_of_isLetter first)
      (ofChar?_eq_none_of_isLetter first),
    List.takeWhile_cons_of_neg notJunk, List.dropWhile_cons_of_neg notJunk, Text.width_nil,
    Nat.add_zero, afterJunk, if_pos first, Text.takeWhile_isLetter_append letters ends,
    Text.dropWhile_isLetter_append letters ends]

end Next

/-! ## All tokens -/

theorem tokensFrom_of_none {offset : Nat} {text : Text} (none : next? offset text = none) :
    tokensFrom offset text = [] := by
  rw [tokensFrom]
  split
  · rfl
  · rename_i other
    rw [none] at other
    cases other

theorem tokensFrom_of_some {offset : Nat} {text rest : Text} {token : Token}
    (found : next? offset text = some (token, rest)) :
    tokensFrom offset text = token :: tokensFrom token.span.stop rest := by
  rw [tokensFrom]
  split
  · rename_i other
    rw [found] at other
    cases other
  · rename_i other
    rw [found] at other
    cases other
    rfl

theorem tokensFrom_congr {offset other : Nat} {text otherText : Text}
    (same : next? offset text = next? other otherText) :
    tokensFrom offset text = tokensFrom other otherText := by
  cases found : next? other otherText with
  | none => rw [tokensFrom_of_none (same.trans found), tokensFrom_of_none found]
  | some next => rw [tokensFrom_of_some (same.trans found), tokensFrom_of_some found]

theorem tokensFrom_nil (offset : Nat) : tokensFrom offset [] = [] :=
  tokensFrom_of_none (next?_nil offset)

theorem tokensFrom_separator {character : Char} (separator : isLetter character = false)
    (notSymbol : Symbol.ofChar? character = none) (offset : Nat) (rest : Text) :
    tokensFrom offset (character :: rest)
      = tokensFrom (offset + character.utf8Size) rest :=
  tokensFrom_congr (next?_separator separator notSymbol offset rest)

theorem tokensFrom_symbol {character : Char} {symbol : Symbol}
    (found : Symbol.ofChar? character = some symbol) (offset : Nat) (rest : Text) :
    tokensFrom offset (character :: rest)
      = ⟨.symbol symbol, ⟨offset, offset + character.utf8Size⟩⟩
        :: tokensFrom (offset + character.utf8Size) rest :=
  tokensFrom_of_some (next?_symbol found offset rest)

theorem tokensFrom_run {run rest : Text} (isRun : IsRun run) (ends : EndsLetters rest)
    (offset : Nat) :
    tokensFrom offset (run ++ rest)
      = ⟨.word (lowerCase run), ⟨offset, offset + width run⟩⟩
        :: tokensFrom (offset + width run) rest :=
  tokensFrom_of_some (next?_run isRun ends offset)

/-- A piece of text is one token in front of `rest`, and of any text at whose end part of
`rest` is missing. -/
structure Takes (piece : Text) (lexeme : Lexeme) (rest : Text) : Prop where
  width_pos : 0 < width piece
  tokens : ∀ kept, kept <+: rest → ∀ offset, tokensFrom offset (piece ++ kept)
    = ⟨lexeme, ⟨offset, offset + width piece⟩⟩ :: tokensFrom (offset + width piece) kept

namespace Takes

theorem symbol {character : Char} {symbol : Symbol}
    (found : Symbol.ofChar? character = some symbol) (rest : Text) :
    Takes [character] (.symbol symbol) rest where
  width_pos := Text.width_pos (List.cons_ne_nil _ _)
  tokens kept _ offset := tokensFrom_symbol found offset kept

theorem run {run rest : Text} (isRun : IsRun run) (ends : EndsLetters rest) :
    Takes run (.word (lowerCase run)) rest where
  width_pos := by
    obtain ⟨letter, others, rfl, _, _⟩ := isRun.exists_cons
    exact Text.width_pos (List.cons_ne_nil _ _)
  tokens kept shorter := by
    obtain ⟨missing, rfl⟩ := shorter
    exact tokensFrom_run isRun ends.of_append

variable {piece rest : Text} {lexeme : Lexeme}

theorem tokensFrom_append (takes : Takes piece lexeme rest) (offset : Nat) :
    tokensFrom offset (piece ++ rest)
      = ⟨lexeme, ⟨offset, offset + width piece⟩⟩ :: tokensFrom (offset + width piece) rest :=
  takes.tokens rest (List.prefix_refl rest) offset

end Takes

/-- Induction over a text in the steps of the search for tokens. -/
theorem induction_on_tokens {motive : Text → Prop} (text : Text) (nil : motive [])
    (skipped : ∀ character rest, (∀ offset kept, tokensFrom offset (character :: kept)
      = tokensFrom (offset + character.utf8Size) kept) → motive rest →
        motive (character :: rest))
    (taken : ∀ piece lexeme rest, Takes piece lexeme rest → motive rest →
      motive (piece ++ rest)) : motive text := by
  induction text using Text.induction_on_runs with
  | nil => exact nil
  | separator character rest separator inductionHypothesis =>
      cases found : Symbol.ofChar? character with
      | none =>
          exact skipped character rest (tokensFrom_separator separator found)
            inductionHypothesis
      | some symbol =>
          exact taken [character] _ rest (.symbol found rest) inductionHypothesis
  | run run rest isRun ends inductionHypothesis =>
      exact taken run _ rest (.run isRun ends) inductionHypothesis

/-- The tokens of a text are those of its parts if letters do not stand on both sides of the
cut. -/
theorem tokensFrom_append {before after : Text}
    (apart : EndsLetters before.reverse ∨ EndsLetters after) (offset : Nat) :
    tokensFrom offset (before ++ after)
      = tokensFrom offset before ++ tokensFrom (offset + width before) after := by
  induction before using Text.induction_on_runs generalizing offset with
  | nil =>
      rw [tokensFrom_nil]
      rfl
  | separator character rest separator inductionHypothesis =>
      rw [List.reverse_cons] at apart
      have later := inductionHypothesis (apart.imp_left EndsLetters.of_append)
        (offset + character.utf8Size)
      rw [List.cons_append, Text.width_cons, ← Nat.add_assoc]
      cases found : Symbol.ofChar? character with
      | none =>
          rw [tokensFrom_separator separator found, tokensFrom_separator separator found, later]
      | some symbol =>
          rw [tokensFrom_symbol found, tokensFrom_symbol found, later, List.cons_append]
  | run run rest isRun ends inductionHypothesis =>
      have endsAfter := isRun.endsLetters_append ends apart
      rw [List.reverse_append] at apart
      have later := inductionHypothesis (apart.imp_left EndsLetters.of_append)
        (offset + width run)
      rw [List.append_assoc, tokensFrom_run isRun endsAfter, tokensFrom_run isRun ends, later,
        Text.width_append, ← Nat.add_assoc, List.cons_append]

/-! ## Shifts -/

/-- The span as many bytes further on. -/
def Span.shift (distance : Nat) (span : Span) : Span :=
  ⟨span.start + distance, span.stop + distance⟩

/-- The token as many bytes further on. -/
def Token.shift (distance : Nat) (token : Token) : Token :=
  ⟨token.lexeme, token.span.shift distance⟩

/-- A text has the same tokens wherever it stands, but for their places. -/
theorem tokensFrom_add (offset distance : Nat) (text : Text) :
    tokensFrom (offset + distance) text
      = (tokensFrom offset text).map (Token.shift distance) := by
  induction text using induction_on_tokens generalizing offset with
  | nil => rw [tokensFrom_nil, tokensFrom_nil, List.map_nil]
  | skipped character rest passes inductionHypothesis =>
      rw [passes, passes, Nat.add_right_comm, inductionHypothesis]
  | taken piece lexeme rest takes inductionHypothesis =>
      rw [takes.tokensFrom_append, takes.tokensFrom_append, Nat.add_right_comm,
        inductionHypothesis, List.map_cons]
      rfl

/-! ## Lexemes -/

/-- What the tokens of a text stand for, wherever the text stands. -/
def lexemesOf (text : Text) : List Lexeme := (tokenize text).map Token.lexeme

theorem map_lexeme_tokensFrom (text : Text) (offset : Nat) :
    (tokensFrom offset text).map Token.lexeme = lexemesOf text := by
  rw [← Nat.zero_add offset, tokensFrom_add, List.map_map]
  rfl

theorem lexemesOf_nil : lexemesOf [] = [] := by
  rw [lexemesOf, tokenize, tokensFrom_nil]
  rfl

theorem lexemesOf_separator {character : Char} (separator : isLetter character = false)
    (notSymbol : Symbol.ofChar? character = none) (rest : Text) :
    lexemesOf (character :: rest) = lexemesOf rest := by
  rw [lexemesOf, tokenize, tokensFrom_separator separator notSymbol, map_lexeme_tokensFrom]

theorem lexemesOf_symbol (symbol : Symbol) (rest : Text) :
    lexemesOf (symbol.char :: rest) = .symbol symbol :: lexemesOf rest := by
  rw [lexemesOf, tokenize, tokensFrom_symbol symbol.ofChar?_char, List.map_cons,
    map_lexeme_tokensFrom]

theorem lexemesOf_run {run rest : Text} (isRun : IsRun run) (ends : EndsLetters rest) :
    lexemesOf (run ++ rest) = .word (lowerCase run) :: lexemesOf rest := by
  rw [lexemesOf, tokenize, tokensFrom_run isRun ends, List.map_cons, map_lexeme_tokensFrom]

/-- The text of a lexeme that is a word. -/
def Lexeme.word? : Lexeme → Option Text
  | .symbol _ => none
  | .word text => some text

/-- The words of a query are its lower-cased runs of letters. -/
theorem filterMap_word?_lexemesOf (text : Text) :
    (lexemesOf text).filterMap Lexeme.word? = (Text.letterRuns text).map lowerCase := by
  induction text using Text.induction_on_runs with
  | nil => rw [lexemesOf_nil]; rfl
  | separator character rest separator inductionHypothesis =>
      rw [Text.letterRuns_cons separator]
      cases found : Symbol.ofChar? character with
      | none => rw [lexemesOf_separator separator found, inductionHypothesis]
      | some symbol =>
          rw [Symbol.eq_char_of_ofChar? found, lexemesOf_symbol,
            List.filterMap_cons_none rfl, inductionHypothesis]
  | run run rest isRun ends inductionHypothesis =>
      have isWord : Lexeme.word? (.word (lowerCase run)) = some (lowerCase run) := rfl
      rw [lexemesOf_run isRun ends, List.filterMap_cons_some isWord, inductionHypothesis,
        Text.letterRuns_append isRun.nonempty isRun.letters ends, List.map_cons]

/-! ## Words with their places -/

/-- The word that a token stands for, with its place. -/
def Token.word? (token : Token) : Option (Text × Span) :=
  match token.lexeme with
  | .symbol _ => none
  | .word text => some (text, token.span)

/-- The search for tokens and the scan for words find the same words at the same places:
both pass over separators alike, and symbols are separators of words. -/
theorem filterMap_word?_tokensFrom (text : Text) (offset position : Nat) :
    (tokensFrom offset text).filterMap Token.word?
      = (Text.wordsFrom position offset text).map fun word =>
          (word.text, ⟨word.start, word.stop⟩) := by
  induction text using Text.induction_on_runs generalizing offset position with
  | nil => rw [tokensFrom_nil, Text.wordsFrom_nil]; rfl
  | separator character rest separator inductionHypothesis =>
      rw [Text.wordsFrom_separator separator]
      cases found : Symbol.ofChar? character with
      | none => rw [tokensFrom_separator separator found, inductionHypothesis]
      | some symbol =>
          rw [tokensFrom_symbol found, List.filterMap_cons_none rfl, inductionHypothesis]
  | run run rest isRun ends inductionHypothesis =>
      have isWord : Token.word? ⟨.word (lowerCase run), ⟨offset, offset + width run⟩⟩
          = some (lowerCase run, ⟨offset, offset + width run⟩) := rfl
      rw [tokensFrom_run isRun ends, Text.wordsFrom_run isRun ends,
        List.filterMap_cons_some isWord, List.map_cons,
        inductionHypothesis (offset + width run) (position + 1)]

theorem map_position_wordsFrom (text : Text) (offset position : Nat) :
    (Text.wordsFrom position offset text).map Text.Word.position
      = List.range' position (Text.wordsFrom position offset text).length := by
  induction text using Text.induction_on_runs generalizing offset position with
  | nil => rw [Text.wordsFrom_nil]; rfl
  | separator character rest separator inductionHypothesis =>
      rw [Text.wordsFrom_separator separator, inductionHypothesis]
  | run run rest isRun ends inductionHypothesis =>
      rw [Text.wordsFrom_run isRun ends, List.map_cons, inductionHypothesis, List.length_cons,
        List.range'_succ]

/-- The words among the tokens of a query are the words of the query taken as a text, with
the same bounds, and these are numbered from zero in order. -/
theorem words_of_tokenize (query : Text) :
    (tokenize query).filterMap Token.word?
        = query.words.map (fun word => (word.text, ⟨word.start, word.stop⟩)) ∧
      query.words.map Text.Word.position = List.range query.words.length := by
  refine ⟨filterMap_word?_tokensFrom query 0 0, ?_⟩
  rw [Text.words, map_position_wordsFrom, List.range_eq_range']

/-- Symbols, junk and blanks stand between words alike. -/
example : (tokenize "42Σας!(don't|9").filterMap Token.word?
    = [("σας".toList, ⟨2, 8⟩), ("don".toList, ⟨10, 13⟩), ("t".toList, ⟨14, 15⟩)] := by
  decide +kernel

end Concordance.Query
