import Concordance.Query.Span

/-!
Contract: query trees.

Negation is no node of its own: every node carries a flag, and negating a node
twice gives the node back.

Owns:
- literals, nodes and their marks;
- the depth, the words and the nodes of a tree;
- the canonical text of a tree.

Does not own: reading a tree from tokens (`Concordance.Query.Parser`) or its
meaning (`Concordance.Query.Evaluation`).
-/

set_option autoImplicit false

namespace Concordance.Query

/-- The operators that join two expressions. -/
inductive Connective where
  | and
  | or
deriving DecidableEq, Repr

/-- The character of a connective. -/
def Connective.char : Connective → Char
  | and => '&'
  | or => '|'

/-- Words to look up, as a contiguous run where `phrase` is set. -/
structure Literal where
  words : List Text
  phrase : Bool
deriving DecidableEq, Repr

/-- What every node carries. -/
structure Mark where
  negated : Bool
  span : Span
deriving DecidableEq, Repr

/-- A query tree. -/
inductive Tree where
  | literal (mark : Mark) (content : Literal)
  | binary (mark : Mark) (connective : Connective) (left right : Tree)
deriving DecidableEq, Repr

namespace Tree

/-- The mark of the topmost node. -/
def mark : Tree → Mark
  | literal mark _ => mark
  | binary mark _ _ _ => mark

/-- The tree with another mark on its topmost node. -/
def withMark (mark : Mark) : Tree → Tree
  | literal _ content => literal mark content
  | binary _ connective left right => binary mark connective left right

/-- The tree with the opposite meaning, covering `span`. -/
def negate (tree : Tree) (span : Span) : Tree :=
  tree.withMark ⟨!tree.mark.negated, span⟩

/-- Number of nodes on the longest path down from the topmost node. -/
def depth : Tree → Nat
  | literal _ _ => 1
  | binary _ _ left right => 1 + max left.depth right.depth

/-- The words of all literals, from left to right. -/
def words : Tree → List Text
  | literal _ content => content.words
  | binary _ _ left right => left.words ++ right.words

/-- Every node with its distance from the topmost node of the whole tree, a node
before the nodes below it, and left before right. `level` is the distance of the
first one. -/
def nodesFrom (level : Nat) : Tree → List (Nat × Tree)
  | literal mark content => [(level, literal mark content)]
  | binary mark connective left right =>
      (level, binary mark connective left right)
        :: (left.nodesFrom (level + 1) ++ right.nodesFrom (level + 1))

/-- Every node with its distance from the topmost one. -/
def nodes (tree : Tree) : List (Nat × Tree) := tree.nodesFrom 0

/-- The words of a literal, separated by blanks and quoted where they are a
phrase. -/
def renderLiteral (content : Literal) : Text :=
  let words := Text.joined " " content.words
  if content.phrase then '"' :: words ++ ['"'] else words

/-- The exclamation mark of a negated node. -/
def renderNegation (mark : Mark) : Text := if mark.negated then ['!'] else []

/-- The canonical text of a tree. -/
def render : Tree → Text
  | literal mark content => renderNegation mark ++ renderLiteral content
  | binary mark connective left right =>
      renderNegation mark ++ ['('] ++ left.render ++ [' ', connective.char, ' ']
        ++ right.render ++ [')']

end Tree

end Concordance.Query
