import Concordance.Proofs.Query.Grammar
import Concordance.Proofs.Query.Tokens
import Concordance.Proofs.Text.LowerCase

/-!
Contract: the canonical text of a tree, as the tokenizer sees it.

A printed tree is read as the leaves of a derivation of the same shape, whatever stands
behind it, provided that each of its words is read as it stands. The derivation is nested
as deep as the shape, which is the least that any derivation of the shape can be.

Owns:
- words that are read as they stand;
- the words and the nesting of a shape;
- the derivation that a printed tree is read as.

Does not own: which trees come from a query (`Concordance.Proofs.Query.Canonical`).
-/

set_option autoImplicit false

namespace Concordance.Query

open Concordance.Text (EndsLetters IsRun endsLetters_cons endsLetters_nil isLetter lowerCase)

/-! ## Words -/

/-- A run of letters that is its own lower-case form. -/
structure IsWord (word : Text) : Prop where
  isRun : IsRun word
  lowered : lowerCase word = word

theorem isWord_iff (word : Text) : IsWord word ↔ IsRun word ∧ lowerCase word = word :=
  ⟨fun isWord => ⟨isWord.isRun, isWord.lowered⟩, fun ⟨isRun, lowered⟩ => ⟨isRun, lowered⟩⟩

instance (word : Text) : Decidable (IsWord word) := decidable_of_iff _ (isWord_iff word).symm

/-- Lower-casing makes a word of any run without a dotted capital I, which is lowered to a
letter and a mark. -/
theorem isWord_lowerCase_iff {run : Text} (isRun : IsRun run) :
    IsWord (lowerCase run) ↔ 'İ' ∉ run := by
  rw [← Text.isLetter_of_mem_lowerCase_iff isRun.letters]
  constructor
  · intro isWord
    exact isWord.isRun.letters
  · intro letters
    exact ⟨⟨Text.lowerCase_ne_nil isRun.nonempty, letters⟩, Text.lowerCase_lowerCase run⟩

/-! ## Shapes -/

namespace Shape

/-- The words of all literals, from left to right. -/
def words : Shape → List Text
  | literal _ content => content.words
  | binary _ _ left right => left.words ++ right.words

/-- The largest number of parentheses and exclamation marks that a part of the canonical
text lies under. -/
def nesting : Shape → Nat
  | literal negated _ => negated.toNat
  | binary negated _ left right => max left.nesting right.nesting + 1 + negated.toNat

/-- Whether every literal has words, all of which are read as they stand. -/
def IsReadable : Shape → Prop
  | literal _ content => content.words ≠ [] ∧ ∀ word ∈ content.words, IsWord word
  | binary _ _ left right => left.IsReadable ∧ right.IsReadable

instance decidableIsReadable : (shape : Shape) → Decidable shape.IsReadable
  | literal _ content =>
      inferInstanceAs (Decidable (content.words ≠ [] ∧ ∀ word ∈ content.words, IsWord word))
  | binary _ _ left right =>
      have := decidableIsReadable left
      have := decidableIsReadable right
      inferInstanceAs (Decidable (left.IsReadable ∧ right.IsReadable))

end Shape

theorem Tree.words_shape (tree : Tree) : tree.shape.words = tree.words := by
  induction tree with
  | literal mark content => rfl
  | binary mark connective left right leftHypothesis rightHypothesis =>
      rw [Tree.shape, Shape.words, Tree.words, leftHypothesis, rightHypothesis]

/-- A derivation is nested at least as deep as its shape, which keeps of every run of
exclamation marks one or none. -/
theorem Expression.nesting_shapeBehind_le (expression : Expression) (marks : Nat) :
    (expression.shapeBehind marks).nesting
      ≤ expression.nesting + (marks % 2 == 1).toNat := by
  induction expression generalizing marks with
  | group connective left right leftHypothesis rightHypothesis =>
      have leftBound : (left.shapeBehind 0).nesting ≤ left.nesting := leftHypothesis 0
      have rightBound : (right.shapeBehind 0).nesting ≤ right.nesting := rightHypothesis 0
      rw [shapeBehind, Shape.nesting, nesting]
      omega
  | not inner inductionHypothesis =>
      have bound := inductionHypothesis (marks + 1)
      have one : ((marks + 1) % 2 == 1).toNat ≤ 1 := Bool.toNat_le _
      rw [shapeBehind, nesting]
      omega
  | phrase first others => exact Nat.le_add_left _ _
  | run first others => exact Nat.le_add_left _ _

theorem Expression.nesting_shape_le (expression : Expression) :
    expression.shape.nesting ≤ expression.nesting :=
  expression.nesting_shapeBehind_le 0

/-! ## Reading what was printed -/

/-- A text is read as the given leaves, whatever stands behind it but a letter. -/
def Reads (text : Text) (leaves : List Lexeme) : Prop :=
  ∀ rest, EndsLetters rest → lexemesOf (text ++ rest) = leaves ++ lexemesOf rest

theorem Connective.char_symbol (connective : Connective) :
    connective.char = connective.symbol.char := by
  cases connective <;> rfl

theorem isLetter_blank : isLetter ' ' = false := by
  decide +kernel

namespace Reads

variable {text others : Text} {leaves more : List Lexeme}

theorem nil : Reads [] [] := fun _ _ => rfl

theorem word {word : Text} (isWord : IsWord word) : Reads word [.word word] := by
  intro rest ends
  rw [lexemesOf_run isWord.isRun ends, isWord.lowered]
  rfl

theorem symbol (symbol : Symbol) (reads : Reads text leaves) :
    Reads (symbol.char :: text) (.symbol symbol :: leaves) := by
  intro rest ends
  rw [List.cons_append, lexemesOf_symbol, reads rest ends, List.cons_append]

theorem blank (reads : Reads text leaves) : Reads (' ' :: text) leaves := by
  intro rest ends
  rw [List.cons_append, lexemesOf_separator isLetter_blank rfl, reads rest ends]

/-- Texts are read one after the other if the second does not go on with a letter. -/
theorem append {character : Char} (separator : isLetter character = false)
    (first : Reads text leaves) (second : Reads (character :: others) more) :
    Reads (text ++ character :: others) (leaves ++ more) := by
  intro rest ends
  have apart : EndsLetters (character :: others ++ rest) := endsLetters_cons separator _
  rw [List.append_assoc, first _ apart, second rest ends, List.append_assoc]

/-- A text is read as its leaves where nothing stands behind it. -/
theorem lexemesOf_eq (reads : Reads text leaves) : lexemesOf text = leaves := by
  have alone := reads [] endsLetters_nil
  rw [List.append_nil, lexemesOf_nil, List.append_nil] at alone
  exact alone

/-- Words with blanks between them are read one by one. -/
theorem joined {first : Text} {others : List Text}
    (areWords : ∀ word ∈ first :: others, IsWord word) :
    Reads (Text.joined " " (first :: others)) ((first :: others).map .word) := by
  induction others generalizing first with
  | nil =>
      rw [Text.joined, List.intercalate_singleton]
      exact Reads.word (areWords first List.mem_cons_self)
  | cons second others inductionHypothesis =>
      have later : Reads (Text.joined " " (second :: others)) ((second :: others).map .word) :=
        inductionHypothesis fun word member => areWords word (List.mem_cons_of_mem _ member)
      rw [Text.joined, List.intercalate_cons_cons, List.append_assoc, List.map_cons]
      exact append isLetter_blank (Reads.word (areWords first List.mem_cons_self)) later.blank

theorem quoted {first : Text} {others : List Text}
    (areWords : ∀ word ∈ first :: others, IsWord word) :
    Reads ('"' :: Text.joined " " (first :: others) ++ ['"'])
      (Expression.phrase first others).lexemes :=
  symbol .quote (append Symbol.quote.isLetter_char (joined areWords) (symbol .quote nil))

theorem group {left right : Text} {leftLeaves rightLeaves : List Lexeme}
    (connective : Connective) (leftReads : Reads left leftLeaves)
    (rightReads : Reads right rightLeaves) :
    Reads ('(' :: (left ++ ' ' :: connective.char :: ' ' :: (right ++ [')'])))
      (.symbol .leftParen :: (leftLeaves
        ++ .symbol connective.symbol :: (rightLeaves ++ [.symbol .rightParen]))) := by
  have closed : Reads (right ++ [')']) (rightLeaves ++ [.symbol .rightParen]) :=
    append Symbol.rightParen.isLetter_char rightReads (symbol .rightParen nil)
  rw [connective.char_symbol]
  exact symbol .leftParen
    (append isLetter_blank leftReads (symbol connective.symbol closed.blank).blank)

end Reads

/-! ## Printed trees -/

/-- A text is read as a derivation of a shape that is nested as deep as the shape. -/
def ReadsAs (text : Text) (shape : Shape) : Prop :=
  ∃ expression : Expression, Reads text expression.lexemes ∧ expression.shape = shape ∧
    expression.nesting = shape.nesting

namespace ReadsAs

theorem literal {content : Literal} (nonempty : content.words ≠ [])
    (areWords : ∀ word ∈ content.words, IsWord word) :
    ReadsAs (Tree.renderLiteral content) (.literal false content) := by
  obtain ⟨words, phrase⟩ := content
  obtain ⟨first, others, rfl⟩ := List.exists_cons_of_ne_nil nonempty
  cases phrase with
  | true => exact ⟨.phrase first others, Reads.quoted areWords, rfl, rfl⟩
  | false => exact ⟨.run first others, Reads.joined areWords, rfl, rfl⟩

theorem group {left right : Text} {leftShape rightShape : Shape} (connective : Connective)
    (leftReads : ReadsAs left leftShape) (rightReads : ReadsAs right rightShape) :
    ReadsAs ('(' :: (left ++ ' ' :: connective.char :: ' ' :: (right ++ [')'])))
      (.binary false connective leftShape rightShape) := by
  obtain ⟨leftExpression, leftReads, rfl, leftNesting⟩ := leftReads
  obtain ⟨rightExpression, rightReads, rfl, rightNesting⟩ := rightReads
  refine ⟨.group connective leftExpression rightExpression,
    Reads.group connective leftReads rightReads, rfl, ?_⟩
  rw [Expression.nesting, leftNesting, rightNesting]
  rfl

/-- An exclamation mark in front negates what stands behind it. -/
theorem not {text : Text} {shape : Shape} (reads : ReadsAs text shape)
    (deeper : shape.negate.nesting = shape.nesting + 1) :
    ReadsAs ('!' :: text) shape.negate := by
  obtain ⟨expression, reads, rfl, nesting⟩ := reads
  refine ⟨.not expression, Reads.symbol .not reads, expression.shapeBehind_succ 0, ?_⟩
  rw [Expression.nesting, nesting, deeper]

end ReadsAs

/-- The text of a node without its exclamation mark. -/
def Tree.renderPlain : Tree → Text
  | literal _ content => renderLiteral content
  | binary _ connective left right =>
      '(' :: (left.render ++ ' ' :: connective.char :: ' ' :: (right.render ++ [')']))

theorem Tree.render_eq (tree : Tree) :
    tree.render = renderNegation tree.mark ++ tree.renderPlain := by
  cases tree with
  | literal mark content => rfl
  | binary mark connective left right => simp [render, renderPlain, Tree.mark]

/-- The canonical text of a tree is read as a derivation of its shape. The induction is on
the tree; an exclamation mark goes in front of what is read without it. -/
theorem Tree.readsAs_render {tree : Tree} (readable : tree.shape.IsReadable) :
    ReadsAs tree.render tree.shape := by
  induction tree with
  | literal mark content =>
      have plain : ReadsAs (renderLiteral content) (.literal false content) :=
        ReadsAs.literal readable.1 readable.2
      obtain ⟨negated, span⟩ := mark
      cases negated with
      | false => exact plain
      | true => exact plain.not rfl
  | binary mark connective left right leftHypothesis rightHypothesis =>
      have plain : ReadsAs (binary mark connective left right).renderPlain
          (.binary false connective left.shape right.shape) :=
        ReadsAs.group connective (leftHypothesis readable.1) (rightHypothesis readable.2)
      rw [render_eq]
      obtain ⟨negated, span⟩ := mark
      cases negated with
      | false => exact plain
      | true => exact plain.not rfl

/-! ## Letters of printed trees -/

theorem filter_isLetter_symbol (symbol : Symbol) (rest : Text) :
    (symbol.char :: rest).filter isLetter = rest.filter isLetter :=
  List.filter_cons_of_neg (by rw [symbol.isLetter_char]; decide)

theorem filter_isLetter_blank (rest : Text) :
    (' ' :: rest).filter isLetter = rest.filter isLetter :=
  List.filter_cons_of_neg (by rw [isLetter_blank]; decide)

theorem filter_isLetter_joined (words : List Text) :
    (Text.joined " " words).filter isLetter = words.flatten.filter isLetter := by
  induction words with
  | nil => rfl
  | cons first others inductionHypothesis =>
      cases others with
      | nil => rw [Text.joined, List.intercalate_singleton, List.flatten_singleton]
      | cons second others =>
          have blank : (" " : Text) = [' '] := rfl
          rw [Text.joined] at inductionHypothesis
          rw [Text.joined, List.intercalate_cons_cons, List.append_assoc, List.filter_append,
            blank, List.singleton_append, filter_isLetter_blank, ← blank,
            inductionHypothesis, ← List.filter_append]
          rfl

/-- The letters of the canonical text are those of the words. -/
theorem Tree.filter_isLetter_render (tree : Tree) :
    tree.render.filter isLetter = tree.words.flatten.filter isLetter := by
  have negation : ∀ (mark : Mark) (rest : Text),
      (renderNegation mark ++ rest).filter isLetter = rest.filter isLetter := by
    intro mark rest
    unfold renderNegation
    split
    · exact filter_isLetter_symbol .not rest
    · rfl
  induction tree with
  | literal mark content =>
      rw [render_eq, negation, renderPlain, renderLiteral, words, ← filter_isLetter_joined]
      split
      · have closing : ['"'].filter isLetter = [] := filter_isLetter_symbol .quote []
        rw [List.filter_append, closing, List.append_nil]
        exact filter_isLetter_symbol .quote _
      · rfl
  | binary mark connective left right leftHypothesis rightHypothesis =>
      have closing : [')'].filter isLetter = [] := filter_isLetter_symbol .rightParen []
      rw [render_eq, negation]
      refine (filter_isLetter_symbol .leftParen _).trans ?_
      rw [List.filter_append, leftHypothesis, filter_isLetter_blank, connective.char_symbol,
        filter_isLetter_symbol, filter_isLetter_blank, List.filter_append, rightHypothesis,
        closing, List.append_nil, words, List.flatten_append, List.filter_append]

end Concordance.Query
