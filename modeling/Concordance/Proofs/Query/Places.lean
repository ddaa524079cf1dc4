import Concordance.Command.Report
import Concordance.Proofs.Query.Parsing
import Concordance.Proofs.Query.Slices
import Mathlib.Data.List.Induction

/-!
Contract: every node of an accepted query stands where its span says, and the text there is
a query for the node.

A node is spelled by tokens that stand next to each other, and covers the text from the
first of them to the last. The exclamation marks in front of a node are among them, so the
span of a negated node is that of all its exclamation marks and of what they negate.

Owns:
- shifted trees;
- the tokens, the span and the children's spans of every node;
- that the covered text is read as the node.

Does not own: the written form of a node (`Concordance.Proofs.Query.Printing`).
-/

set_option autoImplicit false

namespace Concordance.Query

open Concordance.Text (width)

/-! ## Shifts -/

/-- The mark as many bytes further on. -/
def Mark.shift (distance : Nat) (mark : Mark) : Mark :=
  ⟨mark.negated, mark.span.shift distance⟩

/-- The tree with all its spans as many bytes further on. -/
def Tree.shift (distance : Nat) : Tree → Tree
  | .literal mark content => .literal (mark.shift distance) content
  | .binary mark connective left right =>
      .binary (mark.shift distance) connective (left.shift distance) (right.shift distance)

section Shift

variable (distance : Nat)

theorem Span.shift_join (left right : Span) :
    (left.join right).shift distance = (left.shift distance).join (right.shift distance) := by
  simp only [Span.join, Span.shift, Nat.add_min_add_right, Nat.add_max_add_right]

theorem Tree.span_shift (tree : Tree) :
    (tree.shift distance).mark.span = tree.mark.span.shift distance := by
  cases tree <;> rfl

theorem Tree.shift_negate (tree : Tree) (span : Span) :
    (tree.negate span).shift distance
      = (tree.shift distance).negate (span.shift distance) := by
  cases tree <;> rfl

/-- The word as many bytes further on. -/
def shiftWord (word : Text × Span) : Text × Span := (word.1, word.2.shift distance)

theorem map_shift_wordToken (words : List (Text × Span)) :
    (words.map wordToken).map (Token.shift distance)
      = (words.map (shiftWord distance)).map wordToken := by
  rw [List.map_map, List.map_map]
  rfl

theorem map_fst_shiftWord (words : List (Text × Span)) :
    words.map (·.1) = (words.map (shiftWord distance)).map (·.1) := by
  rw [List.map_map]
  rfl

theorem Span.shift_foldl_join (words : List (Text × Span)) (span : Span) :
    (words.foldl (fun span word => span.join word.2) span).shift distance
      = (words.map (shiftWord distance)).foldl (fun span word => span.join word.2)
          (span.shift distance) := by
  induction words generalizing span with
  | nil => rfl
  | cons word words inductionHypothesis =>
      rw [List.foldl_cons, inductionHypothesis, Span.shift_join]
      rfl

/-- Tokens spell the same tree further on, but for its places. -/
theorem Spells.shift {expression : Expression} {tokens : List Token} {tree : Tree}
    (spells : Spells expression tokens tree) :
    Spells expression (tokens.map (Token.shift distance)) (tree.shift distance) := by
  induction spells with
  | group opens first joins second closes firstHypothesis secondHypothesis =>
      rw [List.map_cons, List.map_append, List.map_cons, List.map_append,
        List.map_singleton, Tree.shift, Mark.shift, Span.shift_join]
      exact .group opens firstHypothesis joins secondHypothesis closes
  | not negates spells inductionHypothesis =>
      rw [List.map_cons, Tree.shift_negate, Span.shift_join, ← Tree.span_shift]
      exact .not negates inductionHypothesis
  | phrase opens first others closes =>
      rw [List.map_cons, List.map_append, List.map_singleton, map_shift_wordToken,
        Tree.shift, Mark.shift, Span.shift_join, map_fst_shiftWord distance others,
        map_fst_shiftWord distance (first :: others)]
      refine .phrase ?_ (shiftWord distance first) (others.map (shiftWord distance)) ?_
      · exact opens
      · exact closes
  | run first others =>
      rw [map_shift_wordToken, Tree.shift, Mark.shift, Span.shift_foldl_join,
        map_fst_shiftWord distance others, map_fst_shiftWord distance (first :: others)]
      exact .run (shiftWord distance first) (others.map (shiftWord distance))

/-- Tokens spell a derivation in one way. -/
theorem Spells.unique {expression : Expression} {tokens : List Token} {tree other : Tree}
    (spells : Spells expression tokens tree) (again : Spells expression tokens other) :
    tree = other := by
  have accepted := parseTokens_iff_spells.mpr ⟨expression, spells, Nat.le_refl _⟩
  have acceptedAgain := parseTokens_iff_spells.mpr ⟨expression, again, Nat.le_refl _⟩
  rw [accepted] at acceptedAgain
  exact Except.ok.inj acceptedAgain

/-- What tokens spell further on, they spell where they stand. -/
theorem exists_spells_of_shift {expression : Expression} {tokens : List Token} {tree : Tree}
    (spells : Spells expression (tokens.map (Token.shift distance)) tree) :
    ∃ own, Spells expression tokens own ∧ own.shift distance = tree := by
  have leaves : tokens.map Token.lexeme = expression.lexemes := by
    rw [← spells.map_lexeme, List.map_map]
    rfl
  obtain ⟨own, ownSpells⟩ := exists_spells leaves
  exact ⟨own, ownSpells, (ownSpells.shift distance).unique spells⟩

end Shift

/-! ## Spans of nodes -/

theorem Span.join_of_le {left right : Span} (starts : left.start ≤ right.start)
    (stops : left.stop ≤ right.stop) : left.join right = ⟨left.start, right.stop⟩ := by
  rw [Span.join, Nat.min_eq_left starts, Nat.max_eq_right stops]

/-- A span within another one that begins later and ends earlier. -/
def Span.Inside (inner outer : Span) : Prop :=
  outer.start < inner.start ∧ inner.stop < outer.stop

/-- The span from the first token to the last. -/
def Covers (span : Span) (tokens : List Token) : Prop :=
  ∃ first last, tokens.head? = some first ∧ tokens.getLast? = some last ∧
    span = ⟨first.span.start, last.span.stop⟩

namespace Covers

variable {span : Span} {token : Token} {tokens : List Token}

theorem cons (ordered : InOrder (token :: tokens)) (covers : Covers span tokens) :
    Covers (token.span.join span) (token :: tokens) := by
  obtain ⟨first, last, head, tail, rfl⟩ := covers
  have tokenCovers := ordered.covers token List.mem_cons_self
  have lastCovers := ordered.covers last (List.mem_cons_of_mem _ (List.mem_of_getLast? tail))
  have firstBehind := ordered.behind first (List.mem_of_head? head)
  have lastBehind := ordered.behind last (List.mem_of_getLast? tail)
  refine ⟨token, last, rfl, ?_, Span.join_of_le ?_ ?_⟩
  · rw [List.getLast?_cons, tail]
    rfl
  · show token.span.start ≤ first.span.start
    omega
  · show token.span.stop ≤ last.span.stop
    omega

theorem concat (ordered : InOrder (tokens ++ [token])) (covers : Covers span tokens) :
    Covers (span.join token.span) (tokens ++ [token]) := by
  obtain ⟨first, last, head, tail, rfl⟩ := covers
  have tokenCovers := ordered.covers token (List.mem_append_right _ List.mem_cons_self)
  have firstCovers := ordered.covers first (List.mem_append_left _ (List.mem_of_head? head))
  have behindFirst := ordered.between first (List.mem_of_head? head) token List.mem_cons_self
  have behindLast := ordered.between last (List.mem_of_getLast? tail) token List.mem_cons_self
  refine ⟨first, token, ?_, List.getLast?_concat, Span.join_of_le ?_ ?_⟩
  · rw [List.head?_append, head]
    rfl
  · show first.span.start ≤ token.span.start
    omega
  · show last.span.stop ≤ token.span.stop
    omega

theorem enclosed {opening closing : Token}
    (ordered : InOrder (opening :: (tokens ++ [closing]))) :
    Covers (opening.span.join closing.span) (opening :: (tokens ++ [closing])) := by
  have closingLast : closing ∈ tokens ++ [closing] := List.mem_append_right _ List.mem_cons_self
  have openingCovers := ordered.covers opening List.mem_cons_self
  have closingCovers := ordered.covers closing (List.mem_cons_of_mem _ closingLast)
  have behind := ordered.behind closing closingLast
  refine ⟨opening, closing, rfl, ?_, Span.join_of_le ?_ ?_⟩
  · rw [← List.cons_append, List.getLast?_concat]
  · omega
  · omega

theorem words {first : Text × Span} {others : List (Text × Span)}
    (ordered : InOrder ((first :: others).map wordToken)) :
    Covers (others.foldl (fun span word => span.join word.2) first.2)
      ((first :: others).map wordToken) := by
  induction others using List.reverseRecOn with
  | nil => exact ⟨wordToken first, wordToken first, rfl, rfl, rfl⟩
  | append_singleton others word inductionHypothesis =>
      rw [← List.cons_append, List.map_append, List.map_singleton] at ordered ⊢
      rw [List.foldl_append, List.foldl_cons, List.foldl_nil]
      have shorter := ordered.sublist (List.sublist_append_left _ _)
      exact (inductionHypothesis shorter).concat ordered

theorem le_start {bound : Nat} (covers : Covers span tokens)
    (behind : ∀ token ∈ tokens, bound ≤ token.span.start) : bound ≤ span.start := by
  obtain ⟨first, last, head, _, rfl⟩ := covers
  exact behind first (List.mem_of_head? head)

theorem stop_le {bound : Nat} (covers : Covers span tokens)
    (before : ∀ token ∈ tokens, token.span.stop ≤ bound) : span.stop ≤ bound := by
  obtain ⟨first, last, _, tail, rfl⟩ := covers
  exact before last (List.mem_of_getLast? tail)

theorem inside {opening closing : Token}
    (ordered : InOrder (opening :: (tokens ++ [closing])))
    (covers : Covers span tokens) : span.Inside (opening.span.join closing.span) := by
  have openingCovers := ordered.covers opening List.mem_cons_self
  have closingCovers := ordered.covers closing
    (List.mem_cons_of_mem _ (List.mem_append_right _ List.mem_cons_self))
  have starts : opening.span.stop ≤ span.start :=
    covers.le_start fun token member => ordered.behind token (List.mem_append_left _ member)
  have tail := ordered.sublist (List.sublist_cons_self _ _)
  have stops : span.stop ≤ closing.span.start :=
    covers.stop_le fun token member => tail.between token member closing List.mem_cons_self
  exact ⟨Nat.lt_of_le_of_lt (Nat.min_le_left _ _) (Nat.lt_of_lt_of_le openingCovers starts),
    Nat.lt_of_lt_of_le (Nat.lt_of_le_of_lt stops closingCovers) (Nat.le_max_right _ _)⟩

theorem apart {other : Span} {others : List Token} (ordered : InOrder (tokens ++ others))
    (first : Covers span tokens) (second : Covers other others) : span.stop ≤ other.start :=
  first.stop_le fun token member =>
    second.le_start fun behind otherMember => ordered.between token member behind otherMember

/-- All tokens stand within the span from the first one to the last one. -/
theorem contains (ordered : InOrder tokens) (covers : Covers span tokens)
    (member : token ∈ tokens) :
    span.start ≤ token.span.start ∧ token.span.stop ≤ span.stop := by
  obtain ⟨first, last, head, tail, rfl⟩ := covers
  have tokenCovers := ordered.covers token member
  constructor
  · obtain ⟨rest, rfl⟩ := List.head?_eq_some_iff.mp head
    rcases List.mem_cons.mp member with rfl | later
    · exact Nat.le_refl _
    · have behind := ordered.behind token later
      have firstCovers := ordered.covers first List.mem_cons_self
      show first.span.start ≤ token.span.start
      omega
  · obtain ⟨front, rfl⟩ := List.getLast?_eq_some_iff.mp tail
    rcases List.mem_append.mp member with earlier | isLast
    · have behind := ordered.between token earlier last List.mem_cons_self
      have lastCovers := ordered.covers last (List.mem_append_right _ List.mem_cons_self)
      show token.span.stop ≤ last.span.stop
      omega
    · rw [List.mem_singleton.mp isLast]

end Covers

/-- The children of the topmost node stand inside its span, the left one in front of the
right one. -/
def Tree.ChildrenInside : Tree → Prop
  | .literal _ _ => True
  | .binary mark _ left right =>
      left.mark.span.Inside mark.span ∧ right.mark.span.Inside mark.span ∧
        left.mark.span.stop ≤ right.mark.span.start

theorem Tree.span_negate (tree : Tree) (span : Span) : (tree.negate span).mark.span = span := by
  cases tree <;> rfl

/-- Exclamation marks in front of a node leave its children inside. -/
theorem Tree.ChildrenInside.negate {tree : Tree} {span : Span} (inside : tree.ChildrenInside)
    (starts : span.start ≤ tree.mark.span.start) (stops : tree.mark.span.stop ≤ span.stop) :
    (tree.negate span).ChildrenInside := by
  cases tree with
  | literal mark content => trivial
  | binary mark connective left right =>
      obtain ⟨⟨leftStarts, leftStops⟩, ⟨rightStarts, rightStops⟩, apart⟩ := inside
      exact ⟨⟨Nat.lt_of_le_of_lt starts leftStarts, Nat.lt_of_lt_of_le leftStops stops⟩,
        ⟨Nat.lt_of_le_of_lt starts rightStarts, Nat.lt_of_lt_of_le rightStops stops⟩, apart⟩

namespace Spells

variable {expression : Expression} {tokens : List Token} {tree : Tree}

/-- A node reaches from its first token to its last one. -/
theorem covers (spells : Spells expression tokens tree) (ordered : InOrder tokens) :
    Covers tree.mark.span tokens := by
  induction spells with
  | @group _ _ _ opening operator closing leftTokens rightTokens =>
      have regrouped : opening :: (leftTokens ++ operator :: (rightTokens ++ [closing]))
          = opening :: (leftTokens ++ operator :: rightTokens ++ [closing]) := by simp
      rw [regrouped] at ordered ⊢
      exact Covers.enclosed ordered
  | not negates spells inductionHypothesis =>
      rw [Tree.span_negate]
      exact (inductionHypothesis (ordered.sublist (List.sublist_cons_self _ _))).cons ordered
  | phrase opens first others closes => exact Covers.enclosed ordered
  | run first others => exact Covers.words ordered

theorem childrenInside (spells : Spells expression tokens tree) (ordered : InOrder tokens) :
    tree.ChildrenInside := by
  induction spells with
  | @group _ _ _ opening operator closing leftTokens rightTokens leftTree rightTree
      opens first joins second closes _ _ =>
      -- The operator has no part in the order of the children.
      have sides := ordered.sublist (.cons_cons opening ((List.Sublist.refl leftTokens).append
        (List.sublist_cons_self operator (rightTokens ++ [closing]))))
      have leftSide := sides.sublist (.cons_cons opening ((List.Sublist.refl leftTokens).append
        (List.sublist_append_right rightTokens [closing])))
      have rightSide := sides.sublist
        (.cons_cons opening (List.sublist_append_right leftTokens (rightTokens ++ [closing])))
      have inner := sides.sublist (.cons opening ((List.Sublist.refl leftTokens).append
        (List.sublist_append_left rightTokens [closing])))
      have left := first.covers (inner.sublist (List.sublist_append_left _ _))
      have right := second.covers (inner.sublist (List.sublist_append_right _ _))
      exact ⟨left.inside leftSide, right.inside rightSide, left.apart inner right⟩
  | @not inner mark tokens tree negates spells inductionHypothesis =>
      have shorter := ordered.sublist (List.sublist_cons_self _ _)
      exact (inductionHypothesis shorter).negate (Nat.min_le_right _ _) (Nat.le_max_right _ _)
  | phrase opens first others closes => trivial
  | run first others => trivial

end Spells

/-! ## The nodes of a query -/

/-- Exclamation marks change the topmost node and no other. -/
theorem Tree.mem_nodesFrom_of_negate {tree : Tree} {span : Span} {level : Nat}
    {item : Nat × Tree} (member : item ∈ (tree.negate span).nodesFrom level) :
    item = (level, tree.negate span) ∨ item ∈ tree.nodesFrom level := by
  cases tree with
  | literal mark content => exact .inl (List.mem_singleton.mp member)
  | binary mark connective left right =>
      rcases List.mem_cons.mp member with top | below
      · exact .inl top
      · exact .inr (List.mem_cons_of_mem _ below)

/-- Every node of a tree is spelled by tokens that stand next to each other. -/
theorem Spells.exists_of_mem_nodesFrom {expression : Expression} {tokens : List Token}
    {tree : Tree} (spells : Spells expression tokens tree) {level : Nat} {item : Nat × Tree}
    (member : item ∈ tree.nodesFrom level) :
    ∃ inner part, part <:+: tokens ∧ inner.nesting ≤ expression.nesting ∧
      Spells inner part item.2 := by
  induction spells generalizing level with
  | @group connective left right opening operator closing leftTokens rightTokens leftTree
      rightTree opens first joins second closes firstHypothesis secondHypothesis =>
      have leftInside : leftTokens
          <:+: opening :: (leftTokens ++ operator :: (rightTokens ++ [closing])) :=
        (List.prefix_append _ _).isInfix.trans (List.suffix_cons _ _).isInfix
      have rightInside : rightTokens
          <:+: opening :: (leftTokens ++ operator :: (rightTokens ++ [closing])) := by
        refine ⟨opening :: (leftTokens ++ [operator]), [closing], ?_⟩
        simp
      rw [Expression.nesting]
      rcases List.mem_cons.mp member with rfl | below
      · exact ⟨_, _, List.infix_rfl, Nat.le_refl _, .group opens first joins second closes⟩
      · rcases List.mem_append.mp below with inLeft | inRight
        · obtain ⟨inner, part, within, shallow, spells⟩ := firstHypothesis inLeft
          exact ⟨inner, part, within.trans leftInside, by omega, spells⟩
        · obtain ⟨inner, part, within, shallow, spells⟩ := secondHypothesis inRight
          exact ⟨inner, part, within.trans rightInside, by omega, spells⟩
  | not negates spells inductionHypothesis =>
      rw [Expression.nesting]
      rcases Tree.mem_nodesFrom_of_negate member with rfl | below
      · exact ⟨_, _, List.infix_rfl, Nat.le_refl _, .not negates spells⟩
      · obtain ⟨inner, part, within, shallow, spells⟩ := inductionHypothesis below
        exact ⟨inner, part, List.infix_cons within, by omega, spells⟩
  | phrase opens first others closes =>
      rw [List.mem_singleton.mp member]
      exact ⟨_, _, List.infix_rfl, Nat.le_refl _, .phrase opens first others closes⟩
  | run first others =>
      rw [List.mem_singleton.mp member]
      exact ⟨_, _, List.infix_rfl, Nat.le_refl _, .run first others⟩

/-- The span of the node is that of a part of the query which is not empty. The part is
read as the node, and the children of the node stand inside. -/
structure StandsIn (limit : Nat) (query : Text) (node : Tree) : Prop where
  place : ∃ before part after, query = before ++ part ++ after ∧ part ≠ [] ∧
    node.mark.span = ⟨width before, width before + width part⟩ ∧
    node.mark.span.slice query = part
  reading : ∃ own, parse limit (node.mark.span.slice query) = .ok own ∧
    own.shift node.mark.span.start = node
  children : node.ChildrenInside

theorem standsIn_of_mem_nodes {limit : Nat} {query : Text} {tree : Tree} {item : Nat × Tree}
    (accepted : parse limit query = .ok tree) (member : item ∈ tree.nodes) :
    StandsIn limit query item.2 := by
  obtain ⟨expression, whole, shallow⟩ := parseTokens_iff_spells.mp accepted
  obtain ⟨inner, part, ⟨front, rest, split⟩, nested, spells⟩ :=
    whole.exists_of_mem_nodesFrom member
  obtain ⟨before, covered, after, rfl, tokens, starts, stops⟩ :=
    exists_part split.symm spells.ne_nil
  rw [Nat.zero_add] at tokens starts stops
  have ordered : InOrder part := by
    rw [← tokens]
    exact inOrder_tokensFrom _ _
  have span : item.2.mark.span = ⟨width before, width before + width covered⟩ := by
    obtain ⟨first, last, head, tail, same⟩ := spells.covers ordered
    rw [same, starts first head, stops last tail]
  have slice : item.2.mark.span.slice (before ++ covered ++ after) = covered := by
    rw [span, Span.slice, Text.slice?_width_append]
    rfl
  refine ⟨⟨before, covered, after, rfl, ?_, span, slice⟩, ?_, spells.childrenInside ordered⟩
  · rintro rfl
    rw [tokensFrom_nil] at tokens
    exact spells.ne_nil tokens.symm
  · rw [← Nat.zero_add (width before), tokensFrom_add] at tokens
    rw [← tokens] at spells
    obtain ⟨own, ownSpells, shifted⟩ := exists_spells_of_shift (width before) spells
    rw [slice, span]
    exact ⟨own, parseTokens_iff_spells.mpr ⟨inner, ownSpells, Nat.le_trans nested shallow⟩,
      shifted⟩

/-- The nodes of an accepted query stand where their spans say. In an explanation of the
query, what is shown of each node is a query for the node. -/
theorem nodes_of_parse {limit : Nat} {query : Text} {tree : Tree}
    (accepted : parse limit query = .ok tree) :
    (∀ item ∈ tree.nodes, StandsIn limit query item.2) ∧
      ∀ step ∈ (Command.Explanation.ofTree query tree).steps, ∃ item ∈ tree.nodes,
        step = Command.Step.ofNode query item ∧
          ∃ own, parse limit step.source = .ok own ∧ own.shift step.span.start = item.2 := by
  refine ⟨fun item member => standsIn_of_mem_nodes accepted member, ?_⟩
  intro step shown
  obtain ⟨item, member, rfl⟩ := List.mem_map.mp shown
  exact ⟨item, member, rfl, (standsIn_of_mem_nodes accepted member).reading⟩

/-- The tree of `42 !(!!"Ää b" & c-d)`, in which exclamation marks stand in front of the
group and of the phrase. -/
def marksTree : Tree :=
  .binary ⟨true, ⟨3, 22⟩⟩ .and (.literal ⟨false, ⟨5, 15⟩⟩ ⟨["ää", "b"], true⟩)
    (.literal ⟨false, ⟨18, 21⟩⟩ ⟨["c", "d"], false⟩)

theorem nodes_of_parse_marksTree :
    parse 4 "42 !(!!\"Ää b\" & c-d)" = .ok marksTree ∧
    (∀ item ∈ marksTree.nodes, StandsIn 4 "42 !(!!\"Ää b\" & c-d)" item.2) ∧
    (∀ step ∈ (Command.Explanation.ofTree "42 !(!!\"Ää b\" & c-d)" marksTree).steps,
      ∃ item ∈ marksTree.nodes,
        step = Command.Step.ofNode "42 !(!!\"Ää b\" & c-d)" item ∧
          ∃ own, parse 4 step.source = .ok own ∧ own.shift step.span.start = item.2) ∧
    (marksTree.nodes.map fun item => item.2.mark.span.slice "42 !(!!\"Ää b\" & c-d)")
      = ["!(!!\"Ää b\" & c-d)", "!!\"Ää b\"", "c-d"] := by
  have accepted : parse 4 "42 !(!!\"Ää b\" & c-d)" = .ok marksTree := by decide +kernel
  obtain ⟨nodes, steps⟩ := nodes_of_parse accepted
  exact ⟨accepted, nodes, steps, by decide +kernel⟩

end Concordance.Query
