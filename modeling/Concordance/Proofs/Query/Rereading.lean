import Concordance.Proofs.Query.Parsing
import Concordance.Proofs.Query.Printing

/-!
Contract: the canonical text of a tree is a query for the tree.

This holds of trees that come from no query as well, as long as each of their literals has
words, and words that are read as they stand. What the text needs of the nesting bound is
found at the deepest node: a level for each pair of parentheses that the node stands in, and
one for each exclamation mark in front of it or of one of these pairs.

Owns:
- the nodes of a tree with the nodes above them;
- the negations on the way to a node, and its level;
- which nesting bounds accept the canonical text of a tree, and what is read then.

Does not own: canonical texts with other words (`Concordance.Proofs.Query.Canonical`).
-/

set_option autoImplicit false

namespace Concordance.Query

/-! ## Levels -/

/-- A node of a tree with the nodes above it, from the topmost one down. -/
inductive Tree.HasNode : Tree → List Tree → Tree → Prop where
  | top (tree : Tree) : HasNode tree [] tree
  | left {mark : Mark} {connective : Connective} {left right node : Tree} {above : List Tree}
      (has : HasNode left above node) :
      HasNode (.binary mark connective left right)
        (.binary mark connective left right :: above) node
  | right {mark : Mark} {connective : Connective} {left right node : Tree}
      {above : List Tree} (has : HasNode right above node) :
      HasNode (.binary mark connective left right)
        (.binary mark connective left right :: above) node

/-- How many nodes on the way down to a node, the node included, are negated. -/
def negationsOf (above : List Tree) (node : Tree) : Nat :=
  (above ++ [node]).countP fun passed => passed.mark.negated

theorem negationsOf_nil (node : Tree) : negationsOf [] node = node.mark.negated.toNat := by
  cases negated : node.mark.negated <;> simp [negationsOf, negated]

theorem negationsOf_cons (topmost : Tree) (above : List Tree) (node : Tree) :
    negationsOf (topmost :: above) node
      = topmost.mark.negated.toNat + negationsOf above node := by
  cases negated : topmost.mark.negated <;> simp [negationsOf, negated, Nat.add_comm]

/-- How many nodes stand above a node, and how many nodes on the way down to it, the node
included, are negated. -/
def levelOf (above : List Tree) (node : Tree) : Nat :=
  above.length + (above ++ [node]).countP fun passed => passed.mark.negated

theorem levelOf_eq (above : List Tree) (node : Tree) :
    levelOf above node = above.length + negationsOf above node :=
  rfl

theorem levelOf_nil (node : Tree) : levelOf [] node = node.mark.negated.toNat := by
  rw [levelOf_eq, List.length_nil, Nat.zero_add, negationsOf_nil]

theorem levelOf_cons (topmost : Tree) (above : List Tree) (node : Tree) :
    levelOf (topmost :: above) node = levelOf above node + 1 + topmost.mark.negated.toNat := by
  rw [levelOf_eq, levelOf_eq, negationsOf_cons, List.length_cons]
  omega

/-- No node lies deeper than the nesting of the shape. -/
theorem Tree.HasNode.levelOf_le {tree node : Tree} {above : List Tree}
    (has : tree.HasNode above node) : levelOf above node ≤ tree.shape.nesting := by
  induction has with
  | top tree =>
      rw [levelOf_nil]
      cases tree with
      | literal mark content => exact Nat.le_refl _
      | binary mark connective left right => exact Nat.le_add_left _ _
  | left has inductionHypothesis =>
      rw [levelOf_cons, Tree.shape, Shape.nesting, Tree.mark]
      omega
  | right has inductionHypothesis =>
      rw [levelOf_cons, Tree.shape, Shape.nesting, Tree.mark]
      omega

/-- Some node lies as deep as the nesting of the shape. -/
theorem Tree.exists_levelOf_eq (tree : Tree) :
    ∃ above node, tree.HasNode above node ∧ levelOf above node = tree.shape.nesting := by
  induction tree with
  | literal mark content => exact ⟨[], _, .top _, levelOf_nil _⟩
  | binary mark connective left right leftHypothesis rightHypothesis =>
      obtain ⟨leftAbove, leftNode, leftHas, leftLevel⟩ := leftHypothesis
      obtain ⟨rightAbove, rightNode, rightHas, rightLevel⟩ := rightHypothesis
      rcases Nat.le_total left.shape.nesting right.shape.nesting with deeper | deeper
      · refine ⟨_, rightNode, .right rightHas, ?_⟩
        rw [levelOf_cons, rightLevel, Tree.shape, Shape.nesting, Nat.max_eq_right deeper,
          Tree.mark]
      · refine ⟨_, leftNode, .left leftHas, ?_⟩
        rw [levelOf_cons, leftLevel, Tree.shape, Shape.nesting, Nat.max_eq_left deeper,
          Tree.mark]

theorem Tree.nesting_shape_le_iff (tree : Tree) (limit : Nat) :
    tree.shape.nesting ≤ limit ↔
      ∀ above node, tree.HasNode above node → levelOf above node ≤ limit := by
  constructor
  · intro within above node has
    exact Nat.le_trans has.levelOf_le within
  · intro within
    obtain ⟨above, node, has, level⟩ := tree.exists_levelOf_eq
    rw [← level]
    exact within above node has

/-! ## Queries for trees -/

namespace ReadsAs

variable {text : Text} {shape : Shape} {limit : Nat} {tree : Tree}

/-- What is read is the one derivation that the text has. -/
theorem of_parse (reads : ReadsAs text shape) (accepted : parse limit text = .ok tree) :
    tree.shape = shape ∧ shape.nesting ≤ limit := by
  obtain ⟨expression, reads, rfl, nesting⟩ := reads
  obtain ⟨found, ⟨leaves, within⟩, same⟩ := parseTokens_sound accepted
  have unique : found = expression :=
    Expression.lexemes_injective (leaves.trans reads.lexemesOf_eq)
  rw [← same, ← nesting, ← unique]
  exact ⟨rfl, within⟩

theorem exists_parse (reads : ReadsAs text shape) (within : shape.nesting ≤ limit) :
    ∃ tree, parse limit text = .ok tree := by
  obtain ⟨expression, reads, rfl, nesting⟩ := reads
  exact parseTokens_complete ⟨reads.lexemesOf_eq.symm, nesting.trans_le within⟩

end ReadsAs

/-- The canonical text of a tree whose literals have words, all of them in lower case and of
letters only, is accepted just under the nesting bounds that no node exceeds, and gives the
same tree but for the places. -/
theorem parse_render_readable_iff {tree : Tree} (readable : tree.shape.IsReadable)
    (limit : Nat) :
    ((∃ read, parse limit tree.render = .ok read) ↔
      ∀ above node, tree.HasNode above node → levelOf above node ≤ limit) ∧
    ∀ read, parse limit tree.render = .ok read → read.shape = tree.shape := by
  have reads := Tree.readsAs_render readable
  rw [← tree.nesting_shape_le_iff]
  refine ⟨⟨fun ⟨read, accepted⟩ => ?_, reads.exists_parse⟩, fun read accepted => ?_⟩
  · exact (reads.of_parse accepted).2
  · exact (reads.of_parse accepted).1

/-- A tree with no places, in which nodes of every kind are negated. -/
def doubtTree : Tree :=
  .binary ⟨true, ⟨0, 0⟩⟩ .and (.literal ⟨true, ⟨0, 0⟩⟩ ⟨["ää"], true⟩)
    (.binary ⟨false, ⟨0, 0⟩⟩ .or (.literal ⟨false, ⟨0, 0⟩⟩ ⟨["b", "c"], false⟩)
      (.literal ⟨true, ⟨0, 0⟩⟩ ⟨["σας"], false⟩))

theorem parse_render_doubtTree :
    doubtTree.shape.IsReadable ∧ doubtTree.render = "!(!\"ää\" & (b c | !σας))" ∧
      (∃ read, parse 4 doubtTree.render = .ok read ∧ read.shape = doubtTree.shape) ∧
      ¬∃ read, parse 3 doubtTree.render = .ok read := by
  have readable : doubtTree.shape.IsReadable := by decide +kernel
  obtain ⟨accepts, same⟩ := parse_render_readable_iff readable 4
  obtain ⟨accepted, _⟩ := parse_render_readable_iff readable 3
  rw [← Tree.nesting_shape_le_iff] at accepts accepted
  have enough : doubtTree.shape.nesting ≤ 4 := by decide
  have tooDeep : ¬doubtTree.shape.nesting ≤ 3 := by decide
  obtain ⟨read, found⟩ := accepts.mpr enough
  exact ⟨readable, by decide +kernel, ⟨read, found, same read found⟩,
    fun some => tooDeep (accepted.mp some)⟩

end Concordance.Query
