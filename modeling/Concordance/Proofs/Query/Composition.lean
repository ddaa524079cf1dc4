import Concordance.Proofs.Query.Answer
import Concordance.Proofs.Query.Printing

/-!
Contract: queries are put together as the sets of documents that they find.

An accepted query stays one expression wherever it stands, since no letter stands next to
it: an operator ends the last word of a query and begins no word of the next one. So an
exclamation mark in front of a query gives the documents that the query does not find, and
two queries in parentheses give the documents that both find, or either.

Owns:
- that a text is read as its own leaves in front of an operator;
- what a search of a sound index answers, by the derivation of the query;
- connectives as operations on sets of documents;
- negated and joined queries.

Does not own: the derivation of a printed tree (`Concordance.Proofs.Query.Printing`).
-/

set_option autoImplicit false

namespace Concordance.Query

/-! ## Leaves of texts next to operators -/

/-- Every text is read as its own leaves, whatever stands behind it but a letter. -/
theorem reads_lexemesOf (text : Text) : Reads text (lexemesOf text) := by
  intro rest ends
  rw [lexemesOf, tokenize, tokensFrom_append (.inr ends), List.map_append,
    map_lexeme_tokensFrom, map_lexeme_tokensFrom]

theorem lexemesOf_not (query : Text) :
    lexemesOf ('!' :: query) = .symbol .not :: lexemesOf query :=
  (Reads.symbol .not (reads_lexemesOf query)).lexemesOf_eq

/-- Two texts in parentheses with a connective between them. -/
def joinedQuery (connective : Connective) (first second : Text) : Text :=
  '(' :: (first ++ connective.char :: (second ++ [')']))

theorem lexemesOf_joinedQuery (connective : Connective) (first second : Text) :
    lexemesOf (joinedQuery connective first second)
      = .symbol .leftParen :: (lexemesOf first
        ++ .symbol connective.symbol :: (lexemesOf second ++ [.symbol .rightParen])) := by
  have closed : Reads (second ++ [')']) (lexemesOf second ++ [.symbol .rightParen]) :=
    Reads.append Symbol.rightParen.isLetter_char (reads_lexemesOf second)
      (Reads.symbol .rightParen .nil)
  have joined : Reads (first ++ connective.symbol.char :: (second ++ [')']))
      (lexemesOf first
        ++ .symbol connective.symbol :: (lexemesOf second ++ [.symbol .rightParen])) :=
    Reads.append connective.symbol.isLetter_char (reads_lexemesOf first)
      (Reads.symbol connective.symbol closed)
  rw [joinedQuery, connective.char_symbol]
  exact (Reads.symbol .leftParen joined).lexemesOf_eq

/-! ## Derivations of composed queries -/

section Derives

variable {limit : Nat} {first second : Text} {left right : Expression}

theorem Derives.not (derives : Derives limit left (tokenize first)) :
    Derives (limit + 1) (.not left) (tokenize ('!' :: first)) := by
  obtain ⟨leaves, within⟩ := derives
  refine ⟨?_, Nat.succ_le_succ within⟩
  rw [Expression.lexemes, leaves]
  exact (lexemesOf_not first).symm

theorem Derives.group (connective : Connective)
    (derives : Derives limit left (tokenize first))
    (others : Derives limit right (tokenize second)) :
    Derives (limit + 1) (.group connective left right)
      (tokenize (joinedQuery connective first second)) := by
  obtain ⟨leaves, within⟩ := derives
  obtain ⟨otherLeaves, otherWithin⟩ := others
  refine ⟨?_, Nat.succ_le_succ (Nat.max_le.mpr ⟨within, otherWithin⟩)⟩
  rw [Expression.lexemes, leaves, otherLeaves]
  exact (lexemesOf_joinedQuery connective first second).symm

end Derives

theorem Expression.satisfied_shape_not (holds : Literal → Prop) (inner : Expression) :
    (Expression.not inner).shape.Satisfied holds ↔ ¬inner.shape.Satisfied holds := by
  rw [shape, shapeBehind, shapeBehind_succ, Shape.satisfied_negate]
  rfl

/-! ## Searches -/

/-- A derived query is answered with the documents in which its derivation is true. -/
theorem Derives.exists_search {index : Index} (sound : index.Sound) {limit : Nat}
    {query : Text} {expression : Expression}
    (derives : Derives limit expression (tokenize query)) :
    ∃ found, search limit index query = .ok found ∧ ∀ document,
      document ∈ found ↔ document ∈ index.allDocuments ∧
        expression.shape.Satisfied (Literal.Holds index document) := by
  obtain ⟨tree, accepted⟩ := parseTokens_complete derives
  obtain ⟨parsed, parsedDerives, shape⟩ := parseTokens_sound accepted
  have same : expression = parsed :=
    Expression.lexemes_injective (derives.1.trans parsedDerives.1.symm)
  refine ⟨evaluate index tree, ?_, fun document => ?_⟩
  · rw [search, parse, accepted]
    rfl
  · rw [mem_evaluate_of_sound sound, Tree.satisfied_iff_shape, same, shape]

/-- A search of a sound index answers with a set of documents exactly if the grammar
derives the query, and the set has the documents in which the derivation is true. -/
theorem search_eq_ok_iff {index : Index} (sound : index.Sound) {limit : Nat} {query : Text}
    {found : DocumentSet} :
    search limit index query = .ok found ↔
      ∃ expression, Derives limit expression (tokenize query) ∧ ∀ document,
        document ∈ found ↔ document ∈ index.allDocuments ∧
          expression.shape.Satisfied (Literal.Holds index document) := by
  constructor
  · intro searched
    rw [search, parse] at searched
    cases accepted : parseTokens limit (tokenize query) with
    | error problem =>
        rw [accepted] at searched
        cases searched
    | ok tree =>
        rw [accepted] at searched
        cases searched
        obtain ⟨expression, derives, same⟩ := parseTokens_sound accepted
        refine ⟨expression, derives, fun document => ?_⟩
        rw [mem_evaluate_of_sound sound, Tree.satisfied_iff_shape, same]
  · rintro ⟨expression, derives, members⟩
    obtain ⟨answer, searched, answers⟩ := derives.exists_search sound
    have same : found = answer :=
      Std.ExtTreeSet.ext_mem fun document => (members document).trans (answers document).symm
    rw [same]
    exact searched

/-! ## Composed queries -/

theorem Connective.documents_and (left right : DocumentSet) :
    Connective.and.documents left (fun _ => right) = left ∩ right := by
  apply Std.ExtTreeSet.ext_mem
  intro document
  rw [Connective.mem_documents_iff, Std.ExtTreeSet.mem_inter_iff]
  rfl

theorem Connective.documents_or (left right : DocumentSet) :
    Connective.or.documents left (fun _ => right) = left ∪ right := by
  apply Std.ExtTreeSet.ext_mem
  intro document
  rw [Connective.mem_documents_iff, Std.ExtTreeSet.mem_union_iff]
  rfl

section Search

variable {index : Index} {limit : Nat} {first second : Text} {found other : DocumentSet}

/-- An exclamation mark in front of a query gives the other documents of the index. -/
theorem search_not (sound : index.Sound) (searched : search limit index first = .ok found) :
    search (limit + 1) index ('!' :: first) = .ok (index.allDocuments \ found) := by
  obtain ⟨expression, derives, members⟩ := (search_eq_ok_iff sound).mp searched
  refine (search_eq_ok_iff sound).mpr ⟨.not expression, derives.not, fun document => ?_⟩
  rw [Std.ExtTreeSet.mem_diff_iff, members, Expression.satisfied_shape_not]
  exact and_congr_right fun known => not_congr (and_iff_right known)

/-- Two queries in parentheses give the documents that their connective makes of the
documents of each. -/
theorem search_joinedQuery (sound : index.Sound) (connective : Connective)
    (searched : search limit index first = .ok found)
    (searchedOther : search limit index second = .ok other) :
    search (limit + 1) index (joinedQuery connective first second)
      = .ok (connective.documents found fun _ => other) := by
  obtain ⟨left, derives, members⟩ := (search_eq_ok_iff sound).mp searched
  obtain ⟨right, others, otherMembers⟩ := (search_eq_ok_iff sound).mp searchedOther
  refine (search_eq_ok_iff sound).mpr
    ⟨.group connective left right, derives.group connective others, fun document => ?_⟩
  rw [Connective.mem_documents_iff, members, otherMembers]
  cases connective with
  | and => exact and_and_left.symm
  | or => exact and_or_left.symm

/-- Two accepted queries are accepted with an exclamation mark in front, and in parentheses
with either connective between them, where one more level of nesting is allowed. They find
the documents of the index that the query does not find, those that both queries find, and
those that either finds. -/
theorem search_composed (valid : index.isValid = true)
    (searched : search limit index first = .ok found)
    (searchedOther : search limit index second = .ok other) :
    search (limit + 1) index ('!' :: first) = .ok (index.allDocuments \ found) ∧
    search (limit + 1) index ('(' :: (first ++ '&' :: (second ++ [')'])))
      = .ok (found ∩ other) ∧
    search (limit + 1) index ('(' :: (first ++ '|' :: (second ++ [')'])))
      = .ok (found ∪ other) := by
  have sound := (Index.isValid_iff index).mp valid
  have both := search_joinedQuery sound .and searched searchedOther
  have either := search_joinedQuery sound .or searched searchedOther
  rw [Connective.documents_and] at both
  rw [Connective.documents_or] at either
  exact ⟨search_not sound searched, both, either⟩

end Search

/-- Neither of the words, with junk around them. -/
def excludingTree : Tree := .literal ⟨true, ⟨2, 14⟩⟩ ⟨["quick", "brown"], false⟩

/-- A phrase behind two exclamation marks. -/
def includingTree : Tree := .literal ⟨false, ⟨1, 12⟩⟩ ⟨["a", "quick"], true⟩

/-- The first query ends in a run of words and junk, and the second one begins with a blank
and exclamation marks. With an operator right next to them they find what they found
alone. -/
theorem search_composed_lunch :
    let first : Text := "7 !quick brown 42%"
    let second : Text := " !!\"a quick\""
    let found := evaluate lunchIndex excludingTree
    let other := evaluate lunchIndex includingTree
    lunchIndex.isValid = true ∧
      search 2 lunchIndex first = .ok found ∧ search 2 lunchIndex second = .ok other ∧
      found.toList = ["lunch", "none"] ∧ other.toList = ["lunch"] ∧
      search 3 lunchIndex "!7 !quick brown 42%" = .ok (lunchIndex.allDocuments \ found) ∧
      search 3 lunchIndex "(7 !quick brown 42%& !!\"a quick\")" = .ok (found ∩ other) ∧
      search 3 lunchIndex "(7 !quick brown 42%| !!\"a quick\")" = .ok (found ∪ other) := by
  intro first second found other
  have valid : lunchIndex.isValid = true := by decide +kernel
  have parsed : parse 2 first = .ok excludingTree := by decide +kernel
  have parsedOther : parse 2 second = .ok includingTree := by decide +kernel
  have searched : search 2 lunchIndex first = .ok found := by
    rw [search, parsed]
    rfl
  have searchedOther : search 2 lunchIndex second = .ok other := by
    rw [search, parsedOther]
    rfl
  exact ⟨valid, searched, searchedOther, by decide +kernel, by decide +kernel,
    search_composed valid searched searchedOther⟩

end Concordance.Query
