import Concordance.Proofs.Query.Rereading
import Concordance.Query.Search

/-!
Contract: the canonical text of an accepted query.

It is a query again, within the same nesting bound and of the same shape, exactly if no
dotted capital I stands in the query. Lowering this letter gives the letter i and a mark
that is no letter, so the canonical text has other words than the tree.

Owns:
- that the words of an accepted query are those of its tree;
- that trees of one shape are evaluated alike;
- when the canonical text of a query has the shape of the query.

Does not own: canonical texts of trees whose words are read as they stand
(`Concordance.Proofs.Query.Rereading`).
-/

set_option autoImplicit false

namespace Concordance.Query

open Concordance.Text (isLetter lowerCase)

/-! ## Words of queries -/

/-- The leaves of a derivation have the words of the shape it denotes. -/
theorem Expression.words_shapeBehind (expression : Expression) (marks : Nat) :
    (expression.shapeBehind marks).words = expression.lexemes.filterMap Lexeme.word? := by
  have areWords : ∀ words : List Text,
      (words.map Lexeme.word).filterMap Lexeme.word? = words := by
    intro words
    rw [List.filterMap_map]
    exact List.filterMap_some
  induction expression generalizing marks with
  | group connective left right leftHypothesis rightHypothesis =>
      rw [shapeBehind, Shape.words, leftHypothesis 0, rightHypothesis 0, lexemes,
        List.filterMap_cons_none rfl, List.filterMap_append, List.filterMap_cons_none rfl,
        List.filterMap_append, List.filterMap_cons_none rfl, List.filterMap_nil,
        List.append_nil]
  | not inner inductionHypothesis =>
      rw [shapeBehind, inductionHypothesis, lexemes, List.filterMap_cons_none rfl]
  | phrase first others =>
      rw [shapeBehind, Shape.words, lexemes, List.filterMap_cons_none rfl,
        List.filterMap_append, areWords, List.filterMap_cons_none rfl, List.filterMap_nil,
        List.append_nil]
  | run first others =>
      rw [shapeBehind, Shape.words, lexemes, areWords]

/-- A shape that a derivation denotes has no literals without words. -/
theorem Expression.isReadable_shapeBehind (expression : Expression) (marks : Nat)
    (areWords : ∀ word ∈ (expression.shapeBehind marks).words, IsWord word) :
    (expression.shapeBehind marks).IsReadable := by
  induction expression generalizing marks with
  | group connective left right leftHypothesis rightHypothesis =>
      rw [shapeBehind, Shape.words] at areWords
      exact ⟨leftHypothesis 0 fun word member => areWords word (List.mem_append_left _ member),
        rightHypothesis 0 fun word member => areWords word (List.mem_append_right _ member)⟩
  | not inner inductionHypothesis => exact inductionHypothesis (marks + 1) areWords
  | phrase first others => exact ⟨List.cons_ne_nil _ _, areWords⟩
  | run first others => exact ⟨List.cons_ne_nil _ _, areWords⟩

/-- The words of an accepted query are those of its tree. -/
theorem words_of_parse {limit : Nat} {query : Text} {tree : Tree}
    (accepted : parse limit query = .ok tree) :
    tree.words = (Text.letterRuns query).map lowerCase := by
  obtain ⟨expression, derives, shape⟩ := parseTokens_sound accepted
  rw [← filterMap_word?_lexemesOf, lexemesOf, ← derives.1, ← Tree.words_shape, ← shape]
  exact expression.words_shapeBehind 0

theorem isLetter_dotted : isLetter 'İ' = true := by
  decide +kernel

/-- All words of a query are read as they stand if no dotted capital I is among its
letters. -/
theorem isWord_of_letterRuns_iff (text : Text) :
    (∀ word ∈ (Text.letterRuns text).map lowerCase, IsWord word) ↔ 'İ' ∉ text := by
  rw [List.forall_mem_map]
  constructor
  · intro areWords dotted
    obtain ⟨run, member, inRun⟩ := (Text.exists_run_iff text 'İ').mpr ⟨dotted, isLetter_dotted⟩
    exact (isWord_lowerCase_iff (Text.isRun_of_mem_letterRuns member)).mp
      (areWords run member) inRun
  · intro notDotted run member
    refine (isWord_lowerCase_iff (Text.isRun_of_mem_letterRuns member)).mpr fun inRun => ?_
    exact notDotted ((Text.exists_run_iff text 'İ').mp ⟨run, member, inRun⟩).1

/-! ## Evaluation by shape -/

/-- Trees of one shape are evaluated alike. -/
theorem evaluate_congr {tree other : Tree} (same : tree.shape = other.shape)
    (index : Index) : evaluate index tree = evaluate index other := by
  induction tree generalizing other with
  | literal mark content =>
      cases other with
      | binary _ _ _ _ => cases same
      | literal mark' content' =>
          obtain ⟨negated, rfl⟩ := Shape.literal.inj same
          simp only [evaluate, excludedWord?, Mark.documents, negated]
  | binary mark connective left right leftHypothesis rightHypothesis =>
      cases other with
      | literal _ _ => cases same
      | binary mark' connective' left' right' =>
          obtain ⟨negated, rfl, leftSame, rightSame⟩ := Shape.binary.inj same
          simp only [evaluate, Mark.documents, negated, leftHypothesis leftSame,
            rightHypothesis rightSame]

theorem search_congr {limit : Nat} {query other : Text} {tree : Tree}
    (accepted : parse limit query = .ok tree)
    (same : (parse limit other).map Tree.shape = .ok tree.shape) (index : Index) :
    search limit index other = search limit index query := by
  rw [search, search, accepted]
  cases parsed : parse limit other with
  | error problem =>
      rw [parsed] at same
      cases same
  | ok read =>
      rw [parsed] at same
      have shapes : read.shape = tree.shape := Except.ok.inj same
      exact congrArg Except.ok (evaluate_congr shapes index)

/-! ## Canonical texts -/

/-- The canonical text of a query has no dotted capital I, since its words are lowered. -/
theorem dotted_not_mem_render {limit : Nat} {query : Text} {tree : Tree}
    (accepted : parse limit query = .ok tree) : 'İ' ∉ tree.render := by
  intro dotted
  have member : 'İ' ∈ tree.render.filter isLetter :=
    List.mem_filter.mpr ⟨dotted, isLetter_dotted⟩
  rw [tree.filter_isLetter_render, words_of_parse accepted] at member
  obtain ⟨word, isWord, inWord⟩ := List.mem_flatten.mp (List.mem_filter.mp member).1
  obtain ⟨run, _, rfl⟩ := List.mem_map.mp isWord
  exact (Text.isSettled_of_mem_lowerCase inWord).2.2 rfl

theorem parse_render_of_not_mem {limit : Nat} {query : Text} {tree : Tree}
    (accepted : parse limit query = .ok tree) (notDotted : 'İ' ∉ query) :
    (parse limit tree.render).map Tree.shape = .ok tree.shape := by
  have areWords : ∀ word ∈ tree.words, IsWord word := by
    rw [words_of_parse accepted]
    exact (isWord_of_letterRuns_iff query).mpr notDotted
  obtain ⟨found, derives, shape⟩ := parseTokens_sound accepted
  have readable : tree.shape.IsReadable := by
    rw [← tree.words_shape, ← shape] at areWords
    rw [← shape]
    exact found.isReadable_shapeBehind 0 areWords
  -- Printing keeps one exclamation mark or none of every run of them.
  have least := found.nesting_shape_le
  rw [shape] at least
  have reads := Tree.readsAs_render readable
  obtain ⟨read, again⟩ := reads.exists_parse (least.trans derives.2)
  rw [again]
  exact congrArg Except.ok (reads.of_parse again).1

/-- The canonical text of an accepted query is accepted under the same nesting bound, and
gives a tree of the same shape, exactly if the query holds no dotted capital I. It then
finds the same documents in every index. -/
theorem parse_render_iff {limit : Nat} {query : Text} {tree : Tree}
    (accepted : parse limit query = .ok tree) :
    ((parse limit tree.render).map Tree.shape = .ok tree.shape ↔ 'İ' ∉ query) ∧
    ('İ' ∉ query → ∀ index, search limit index tree.render = search limit index query) := by
  have kept := parse_render_of_not_mem accepted
  refine ⟨⟨fun same => ?_, kept⟩, fun notDotted => search_congr accepted (kept notDotted)⟩
  cases again : parse limit tree.render with
  | error problem =>
      rw [again] at same
      cases same
  | ok read =>
      rw [again] at same
      have shapes : read.shape = tree.shape := Except.ok.inj same
      -- The words of the tree are now those of its own text, which has no such letter.
      rw [← isWord_of_letterRuns_iff, ← words_of_parse accepted, ← Tree.words_shape, ← shapes,
        Tree.words_shape, words_of_parse again, isWord_of_letterRuns_iff]
      exact dotted_not_mem_render accepted

/-- The tree of a query with a negated phrase in a group. -/
def groupTree : Tree :=
  .binary ⟨false, ⟨0, 15⟩⟩ .and (.literal ⟨true, ⟨1, 10⟩⟩ ⟨["ää", "b"], true⟩)
    (.literal ⟨false, ⟨13, 14⟩⟩ ⟨["c"], false⟩)

theorem parse_render_groupTree :
    parse 2 "(!\"Ää B\" & c)" = .ok groupTree ∧
    (parse 2 groupTree.render).map Tree.shape = .ok groupTree.shape ∧
    ∀ index, search 2 index groupTree.render = search 2 index "(!\"Ää B\" & c)" := by
  have accepted : parse 2 "(!\"Ää B\" & c)" = .ok groupTree := by decide +kernel
  have notDotted : 'İ' ∉ ("(!\"Ää B\" & c)" : Text) := by decide
  obtain ⟨same, search⟩ := parse_render_iff accepted
  exact ⟨accepted, same.mpr notDotted, search notDotted⟩

/-- The tree of a query of one word that begins with a dotted capital I. -/
def dottedTree : Tree := .literal ⟨false, ⟨0, 9⟩⟩ ⟨["i\u0307stanbul"], false⟩

/-- The canonical text of the query is read as two words, neither of which is in a document
that the query finds. -/
theorem parse_render_dottedTree :
    parse 256 "İstanbul" = .ok dottedTree ∧
    (parse 256 dottedTree.render).map Tree.shape
      = .ok (.literal false ⟨["i", "stanbul"], false⟩) ∧
    (search 256 (Index.ofTexts [("map", "İstanbul")]) "İstanbul").toOption.map (·.toList)
      = some ["map".toList] ∧
    (search 256 (Index.ofTexts [("map", "İstanbul")]) dottedTree.render).toOption.map
      (·.toList) = some [] := by
  decide +kernel

end Concordance.Query
