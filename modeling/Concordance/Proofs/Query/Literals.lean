import Concordance.Proofs.Query.Canonical
import Concordance.Proofs.Query.Places

/-!
Contract: the words of a query are in its tree, each once and in order.

The tree takes its words from the tokens, and the tokens are those of the query taken as a
text. Each node is spelled by tokens that stand next to each other, so the words of a node
are words that stand next to each other in the query, and inside the span of the node.

Owns:
- the words of the tokens that spell a node;
- the words of a query as the words of its tree;
- the segment of the query that a literal takes its words from.

Does not own: which tokens the words of a query are (`Concordance.Proofs.Query.Tokens`).
-/

set_option autoImplicit false

namespace Concordance.Query

/-! ## Words of tokens -/

/-- The words among tokens depend on their lexemes alone. -/
theorem map_text_filterMap_word? (tokens : List Token) :
    (tokens.filterMap Token.word?).map (·.1)
      = (tokens.map Token.lexeme).filterMap Lexeme.word? := by
  rw [List.map_filterMap, List.filterMap_map]
  congr 1
  funext token
  rw [Function.comp_apply, Token.word?]
  cases token.lexeme <;> rfl

theorem Token.span_of_word? {token : Token} {word : Text × Span}
    (isWord : token.word? = some word) : token.span = word.2 := by
  unfold Token.word? at isWord
  split at isWord
  · cases isWord
  · cases isWord
    rfl

namespace Spells

variable {expression : Expression} {tokens : List Token} {tree : Tree}

/-- A tree has the words of the tokens that spell it. -/
theorem words_eq (spells : Spells expression tokens tree) :
    tree.words = (tokens.filterMap Token.word?).map (·.1) := by
  rw [map_text_filterMap_word?, spells.map_lexeme, ← Tree.words_shape, spells.shape]
  exact expression.words_shapeBehind 0

theorem words_ne_nil (spells : Spells expression tokens tree) : tree.words ≠ [] := by
  induction spells with
  | group opens first joins second closes firstHypothesis secondHypothesis =>
      exact List.append_ne_nil_of_left_ne_nil firstHypothesis _
  | @not inner mark tokens tree negates spells inductionHypothesis =>
      cases tree <;> exact inductionHypothesis
  | phrase opens first others closes => exact List.cons_ne_nil _ _
  | run first others => exact List.cons_ne_nil _ _

end Spells

/-! ## Words of nodes -/

/-- Words are taken from a query: there are some, and they are words of the query that stand
next to each other inside a span. -/
structure AreTakenFrom (query : Text) (span : Span) (words : List Text) : Prop where
  nonempty : words ≠ []
  segment : ∃ segment, segment <:+: query.words ∧ words = segment.map Text.Word.text ∧
    ∀ word ∈ segment, span.start ≤ word.start ∧ word.stop ≤ span.stop

theorem areTakenFrom_of_mem_nodes {limit : Nat} {query : Text} {tree : Tree}
    {item : Nat × Tree} (accepted : parse limit query = .ok tree) (member : item ∈ tree.nodes) :
    AreTakenFrom query item.2.mark.span item.2.words := by
  obtain ⟨expression, whole, _⟩ := parseTokens_iff_spells.mp accepted
  obtain ⟨inner, part, inside, _, spells⟩ := whole.exists_of_mem_nodesFrom member
  refine ⟨spells.words_ne_nil, ?_⟩
  have words := inside.filterMap Token.word?
  rw [(words_of_tokenize query).1, List.infix_map_iff] at words
  obtain ⟨segment, isInfix, places⟩ := words
  refine ⟨segment, isInfix, ?_, fun word inSegment => ?_⟩
  · rw [spells.words_eq, places, List.map_map]
    rfl
  · have place := List.mem_map_of_mem (f := fun word => (word.text, Span.mk word.start word.stop))
      inSegment
    rw [← places] at place
    obtain ⟨token, inPart, isWord⟩ := List.mem_filterMap.mp place
    have ordered := (inOrder_tokensFrom 0 query).sublist inside.sublist
    have contained := (spells.covers ordered).contains ordered inPart
    rw [Token.span_of_word? isWord] at contained
    exact contained

/-- The words of an accepted query, cut out as those of a text are, are the words of its tree,
in the same order. Each literal has words, and takes them from where it stands in the query:
they stand next to each other inside its span. -/
theorem parse_keeps_words {limit : Nat} {query : Text} {tree : Tree}
    (accepted : parse limit query = .ok tree) :
    tree.words = query.words.map Text.Word.text ∧
      ∀ level mark content, (level, Tree.literal mark content) ∈ tree.nodes →
        AreTakenFrom query mark.span content.words := by
  refine ⟨?_, fun level mark content member => areTakenFrom_of_mem_nodes accepted member⟩
  rw [words_of_parse accepted, Text.map_text_words]

/-- The tree of `(!"Ää b" | b-c 9)`, which asks for one of its words twice. -/
def twiceTree : Tree :=
  .binary ⟨false, ⟨0, 19⟩⟩ .or (.literal ⟨true, ⟨1, 10⟩⟩ ⟨["ää", "b"], true⟩)
    (.literal ⟨false, ⟨13, 16⟩⟩ ⟨["b", "c"], false⟩)

theorem parse_keeps_words_twiceTree :
    let query : Text := "(!\"Ää b\" | b-c 9)"
    parse 2 query = .ok twiceTree ∧
    query.words.map Text.Word.text = ["ää", "b", "b", "c"] ∧
    twiceTree.words = query.words.map Text.Word.text ∧
    AreTakenFrom query ⟨1, 10⟩ ["ää", "b"] ∧ AreTakenFrom query ⟨13, 16⟩ ["b", "c"] := by
  intro query
  have accepted : parse 2 query = .ok twiceTree := by decide +kernel
  obtain ⟨words, literals⟩ := parse_keeps_words accepted
  have first : (1, Tree.literal ⟨true, ⟨1, 10⟩⟩ ⟨["ää", "b"], true⟩) ∈ twiceTree.nodes := by
    decide
  have second : (1, Tree.literal ⟨false, ⟨13, 16⟩⟩ ⟨["b", "c"], false⟩) ∈ twiceTree.nodes := by
    decide
  exact ⟨accepted, by decide +kernel, words, literals _ _ _ first, literals _ _ _ second⟩

end Concordance.Query
