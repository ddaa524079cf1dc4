import Concordance.Proofs.Query.Meaning
import Concordance.Proofs.Query.Parsing
import Concordance.Proofs.Text.LetterRuns
import Concordance.Query.Search

/-!
Contract: what a search answers, in terms of the texts that were added.

Nothing here mentions positions, trees or sets that are stepped through. A document
has the words of its texts one after another, and a derivation of the query is true
or false of such a list.

Owns:
- the words of a document of a list of texts;
- the truth of a derivation over a list of words;
- that a search finds the documents whose words match.

Does not own: which words a query has (`Concordance.Query.Token`).
-/

set_option autoImplicit false

namespace Concordance.Query

/-! ## The words of a document -/

/-- The lower-cased letter runs of all texts added for a document, in the order in which
the texts were added. -/
def wordsAdded (texts : List (Text × Text)) (document : Text) : List Text :=
  (texts.filter fun entry => entry.1 = document).flatMap fun entry =>
    (Text.letterRuns entry.2).map Text.lowerCase

theorem wordsAdded_cons (entry : Text × Text) (texts : List (Text × Text))
    (document : Text) :
    wordsAdded (entry :: texts) document =
      (if entry.1 = document then (Text.letterRuns entry.2).map Text.lowerCase else [])
        ++ wordsAdded texts document := by
  unfold wordsAdded
  by_cases same : entry.1 = document
  · rw [if_pos same, List.filter_cons_of_pos (by simpa using same), List.flatMap_cons]
  · rw [if_neg same, List.filter_cons_of_neg (by simpa using same), List.nil_append]

theorem addText_eq_append (corpus : Corpus) (document text : Text) :
    (corpus.addText document text).1
      = corpus.append document ((Text.letterRuns text).map Text.lowerCase) := by
  rw [Corpus.addText, Text.map_text_words]

/-- Adding texts puts their words behind those that are there. -/
theorem wordsOf_foldl_addText (texts : List (Text × Text)) (corpus : Corpus)
    (document : Text) :
    (texts.foldl (fun corpus entry => (corpus.addText entry.1 entry.2).1) corpus).wordsOf
        document = corpus.wordsOf document ++ wordsAdded texts document := by
  induction texts generalizing corpus with
  | nil => exact (List.append_nil _).symm
  | cons entry rest inductionHypothesis =>
      rw [List.foldl_cons, inductionHypothesis, wordsAdded_cons, addText_eq_append,
        Corpus.wordsOf_append, ← List.append_assoc]
      by_cases same : entry.1 = document
      · rw [if_pos same, if_pos same, same]
      · rw [if_neg same, if_neg same, List.append_nil]

theorem wordsOf_ofTexts (texts : List (Text × Text)) (document : Text) :
    (Corpus.ofTexts texts).wordsOf document = wordsAdded texts document :=
  wordsOf_foldl_addText texts Corpus.empty document

/-! ## Literals over a list of words -/

/-- Whether a literal with at least one word holds in a list of words: a phrase as a
contiguous part of it, any other literal word by word. -/
def Literal.HoldsIn (words : List Text) (literal : Literal) : Prop :=
  literal.words ≠ [] ∧
    if literal.phrase then literal.words <:+: words
    else ∀ word ∈ literal.words, word ∈ words

/-- Consecutive positions are a contiguous part of the words. -/
theorem exists_standsAt_iff_infix {index : Index} {corpus : Corpus}
    (represents : index.Represents corpus) (document : Text) {words : List Text}
    (nonempty : words ≠ []) :
    (∃ start, ∀ offset word, words[offset]? = some word →
      index.StandsAt word document (start + offset)) ↔
      words <:+: corpus.wordsOf document := by
  simp only [represents.standsAt_iff]
  rw [List.infix_iff_getElem?]
  constructor
  · rintro ⟨start, stands⟩
    have place : ∀ offset (below : offset < words.length), 1 ≤ start + offset ∧
        (corpus.wordsOf document)[start + offset - 1]? = some words[offset] :=
      fun offset below => stands offset _ (List.getElem?_eq_getElem below)
    have some : 0 < words.length := List.length_pos_iff.mpr nonempty
    have positive : 1 ≤ start := (place 0 some).1
    obtain ⟨last, _⟩ := List.getElem?_eq_some_iff.mp (place (words.length - 1) (by omega)).2
    refine ⟨start - 1, by omega, fun offset below => ?_⟩
    rw [← (place offset below).2]
    congr 1
    omega
  · rintro ⟨start, _, stands⟩
    refine ⟨start + 1, fun offset word here => ⟨by omega, ?_⟩⟩
    obtain ⟨below, rfl⟩ := List.getElem?_eq_some_iff.mp here
    rw [← stands offset below]
    congr 1
    omega

theorem Literal.holds_iff_holdsIn {index : Index} {corpus : Corpus}
    (represents : index.Represents corpus) (document : Text) (literal : Literal) :
    literal.Holds index document ↔ literal.HoldsIn (corpus.wordsOf document) := by
  unfold Literal.Holds Literal.HoldsIn
  apply and_congr_right
  intro nonempty
  split
  · exact exists_standsAt_iff_infix represents document nonempty
  · apply forall₂_congr
    intro word _
    simp only [represents.standsAt_iff]
    rw [List.mem_iff_getElem?]
    constructor
    · rintro ⟨position, _, here⟩
      exact ⟨position - 1, here⟩
    · rintro ⟨place, here⟩
      exact ⟨place + 1, by omega, here⟩

/-! ## Derivations over a list of words -/

/-- Whether a shape is true where `holds` tells which literals are. -/
def Shape.Satisfied (holds : Literal → Prop) : Shape → Prop
  | .literal negated content => if negated then ¬holds content else holds content
  | .binary negated connective left right =>
      if negated then ¬connective.Joined (left.Satisfied holds) (right.Satisfied holds)
      else connective.Joined (left.Satisfied holds) (right.Satisfied holds)

/-- A tree and its shape are true alike. -/
theorem Tree.satisfied_iff_shape (holds : Literal → Prop) (tree : Tree) :
    tree.Satisfied holds ↔ tree.shape.Satisfied holds := by
  induction tree with
  | literal mark content => rfl
  | binary mark connective left right leftHypothesis rightHypothesis =>
      rw [Tree.Satisfied, Tree.shape, Shape.Satisfied, Mark.Applied, leftHypothesis,
        rightHypothesis]

theorem Shape.satisfied_negate (holds : Literal → Prop) (shape : Shape) :
    shape.negate.Satisfied holds ↔ ¬shape.Satisfied holds := by
  cases shape with
  | literal negated content => cases negated <;> simp [Shape.negate, Shape.Satisfied]
  | binary negated connective left right =>
      cases negated <;> simp [Shape.negate, Shape.Satisfied]

/-- Whether a list of words matches a query, read off its derivation: a run if all its
words are in the list, a phrase if its words are a contiguous part of the list. -/
def Expression.Matches (words : List Text) : Expression → Prop
  | group connective left right => connective.Joined (left.Matches words) (right.Matches words)
  | not inner => ¬inner.Matches words
  | phrase first others => first :: others <:+: words
  | run first others => ∀ word ∈ first :: others, word ∈ words

/-- What a derivation denotes is true where the derivation matches. -/
theorem Expression.satisfied_shape (words : List Text) (expression : Expression) :
    expression.shape.Satisfied (Literal.HoldsIn words) ↔ expression.Matches words := by
  induction expression with
  | group connective left right leftHypothesis rightHypothesis =>
      exact iff_of_eq (congrArg₂ connective.Joined (propext leftHypothesis)
        (propext rightHypothesis))
  | not inner inductionHypothesis =>
      rw [shape, shapeBehind, shapeBehind_succ, Shape.satisfied_negate]
      exact not_congr inductionHypothesis
  | phrase first others => exact and_iff_right (List.cons_ne_nil _ _)
  | run first others => exact and_iff_right (List.cons_ne_nil _ _)

/-! ## Searching -/

theorem mem_evaluate_ofTexts_iff (texts : List (Text × Text)) (tree : Tree)
    (document : Text) :
    document ∈ evaluate (Index.ofTexts texts) tree ↔
      document ∈ texts.map Prod.fst ∧
        tree.shape.Satisfied (Literal.HoldsIn (wordsAdded texts document)) := by
  have represents := Index.Represents.ofTexts texts
  rw [mem_evaluate_of_sound represents.sound, Index.mem_allDocuments, represents.cursor,
    Option.isSome_map, Corpus.isSome_ofTexts_iff,
    tree.satisfied_congr (Literal.holds_iff_holdsIn represents document), wordsOf_ofTexts,
    Tree.satisfied_iff_shape]

/-- A search of added texts answers with a set of documents exactly if the grammar
derives the query, and the set has the documents whose words match the derivation. -/
theorem search_ofTexts_eq_ok_iff (limit : Nat) (texts : List (Text × Text)) (query : Text)
    (found : DocumentSet) :
    search limit (Index.ofTexts texts) query = .ok found ↔
      ∃ expression, Derives limit expression (tokenize query) ∧ ∀ document,
        document ∈ found ↔
          document ∈ texts.map Prod.fst ∧ expression.Matches (wordsAdded texts document) := by
  have answer : ∀ {tree : Tree} {expression : Expression}, expression.shape = tree.shape →
      ∀ document, document ∈ evaluate (Index.ofTexts texts) tree ↔
        document ∈ texts.map Prod.fst ∧
          expression.Matches (wordsAdded texts document) := by
    intro tree expression same document
    rw [mem_evaluate_ofTexts_iff, ← same, Expression.satisfied_shape]
  rw [search, parse]
  constructor
  · intro searched
    cases accepted : parseTokens limit (tokenize query) with
    | error problem =>
        rw [accepted] at searched
        cases searched
    | ok tree =>
        rw [accepted] at searched
        cases searched
        obtain ⟨expression, derives, same⟩ := parseTokens_sound accepted
        exact ⟨expression, derives, answer same⟩
  · rintro ⟨expression, derives, members⟩
    have parsed := (parseTokens_shape_iff limit _ _).mpr ⟨expression, derives, rfl⟩
    cases accepted : parseTokens limit (tokenize query) with
    | error problem =>
        rw [accepted] at parsed
        cases parsed
    | ok tree =>
        rw [accepted] at parsed
        have same : expression.shape = tree.shape := (Except.ok.inj parsed).symm
        refine congrArg Except.ok (Std.ExtTreeSet.ext_mem fun document => ?_)
        rw [members, answer same]

/-- A phrase is found across the border of two texts, and a document without words is
found by the absence of any. -/
example : (search 256 (Index.ofTexts [("first", "The quick"), ("second", "42"),
      ("first", "Brown fox")]) "(\"quick brown\" | !fox)").toOption.map (·.toList)
    = some ["first".toList, "second".toList] := by
  decide +kernel

end Concordance.Query
