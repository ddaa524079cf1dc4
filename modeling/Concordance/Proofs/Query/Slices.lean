import Concordance.Proofs.Query.Tokens

/-!
Contract: parts of a text and the tokens in them.

The search for tokens looks neither behind the text it has passed over nor further ahead
than the end of a run of letters. So the part of a text from the start of one token to the
end of another has the tokens that stand there in the whole text, and no others.

Owns:
- that byte offsets name a part of a text exactly if the part begins and ends at
  characters;
- that tokens cover text and stand behind each other;
- the part of a text that a run of its tokens covers.

Does not own: which parts of a query are read as nodes (`Concordance.Proofs.Query.Places`).
-/

set_option autoImplicit false

namespace Concordance

namespace Text

/-! ## Byte offsets -/

theorem dropBytes?_cons (character : Char) (offset : Nat) (rest : Text) :
    dropBytes? (character.utf8Size + offset) (character :: rest) = dropBytes? offset rest := by
  obtain ⟨size, positive⟩ := Nat.exists_eq_add_one_of_ne_zero (Nat.ne_of_gt character.utf8Size_pos)
  rw [positive, Nat.add_right_comm, dropBytes?, if_pos (by omega)]
  congr 1
  omega

theorem takeBytes?_cons (character : Char) (offset : Nat) (rest : Text) :
    takeBytes? (character.utf8Size + offset) (character :: rest)
      = (takeBytes? offset rest).map (character :: ·) := by
  obtain ⟨size, positive⟩ := Nat.exists_eq_add_one_of_ne_zero (Nat.ne_of_gt character.utf8Size_pos)
  rw [positive, Nat.add_right_comm, takeBytes?, if_pos (by omega)]
  congr 2
  omega

theorem dropBytes?_width_append (before after : Text) :
    dropBytes? (width before) (before ++ after) = some after := by
  induction before with
  | nil => rw [List.nil_append, width_nil, dropBytes?]
  | cons character before inductionHypothesis =>
      rw [List.cons_append, width_cons, dropBytes?_cons, inductionHypothesis]

theorem takeBytes?_width_append (part after : Text) :
    takeBytes? (width part) (part ++ after) = some part := by
  induction part with
  | nil => rw [width_nil, takeBytes?]
  | cons character part inductionHypothesis =>
      rw [List.cons_append, width_cons, takeBytes?_cons, inductionHypothesis, Option.map_some]

theorem slice?_width_append (before part after : Text) :
    slice? (width before) (width before + width part) (before ++ part ++ after)
      = some part := by
  rw [slice?, if_pos (Nat.le_add_right _ _), List.append_assoc, dropBytes?_width_append,
    Option.bind_some, Nat.add_sub_cancel_left, takeBytes?_width_append]

end Text

namespace Query

open Concordance.Text (width)

/-! ## Tokens in order -/

/-- Tokens that cover text and stand behind each other. -/
structure InOrder (tokens : List Token) : Prop where
  covers : ∀ token ∈ tokens, token.span.start < token.span.stop
  apart : tokens.Pairwise fun first second => first.span.stop ≤ second.span.start

namespace InOrder

variable {token : Token} {tokens : List Token}

theorem nil : InOrder [] := ⟨List.forall_mem_nil _, .nil⟩

theorem cons (covers : token.span.start < token.span.stop)
    (behind : ∀ other ∈ tokens, token.span.stop ≤ other.span.start)
    (ordered : InOrder tokens) : InOrder (token :: tokens) :=
  ⟨List.forall_mem_cons.mpr ⟨covers, ordered.covers⟩, .cons behind ordered.apart⟩

theorem sublist {some : List Token} (ordered : InOrder tokens) (fewer : some.Sublist tokens) :
    InOrder some :=
  ⟨fun token member => ordered.covers token (fewer.subset member),
    ordered.apart.sublist fewer⟩

theorem behind (ordered : InOrder (token :: tokens)) :
    ∀ other ∈ tokens, token.span.stop ≤ other.span.start :=
  fun _ member => List.rel_of_pairwise_cons ordered.apart member

theorem between {front back : List Token} (ordered : InOrder (front ++ back)) :
    ∀ first ∈ front, ∀ second ∈ back, first.span.stop ≤ second.span.start :=
  (List.pairwise_append.mp ordered.apart).2.2

end InOrder

theorem le_start_of_mem_tokensFrom {offset : Nat} {text : Text} {token : Token}
    (member : token ∈ tokensFrom offset text) : offset ≤ token.span.start := by
  induction text using induction_on_tokens generalizing offset with
  | nil =>
      rw [tokensFrom_nil] at member
      cases member
  | skipped character rest passes inductionHypothesis =>
      rw [passes] at member
      exact Nat.le_of_add_right_le (inductionHypothesis member)
  | taken piece lexeme rest takes inductionHypothesis =>
      rw [takes.tokensFrom_append] at member
      rcases List.mem_cons.mp member with rfl | member
      · exact Nat.le_refl _
      · exact Nat.le_of_add_right_le (inductionHypothesis member)

theorem stop_le_of_mem_tokensFrom {offset : Nat} {text : Text} {token : Token}
    (member : token ∈ tokensFrom offset text) : token.span.stop ≤ offset + width text := by
  induction text using induction_on_tokens generalizing offset with
  | nil =>
      rw [tokensFrom_nil] at member
      cases member
  | skipped character rest passes inductionHypothesis =>
      rw [passes] at member
      rw [Text.width_cons, ← Nat.add_assoc]
      exact inductionHypothesis member
  | taken piece lexeme rest takes inductionHypothesis =>
      rw [takes.tokensFrom_append] at member
      rw [Text.width_append, ← Nat.add_assoc]
      rcases List.mem_cons.mp member with rfl | member
      · exact Nat.le_add_right _ _
      · exact inductionHypothesis member

theorem inOrder_tokensFrom (offset : Nat) (text : Text) : InOrder (tokensFrom offset text) := by
  induction text using induction_on_tokens generalizing offset with
  | nil =>
      rw [tokensFrom_nil]
      exact .nil
  | skipped character rest passes inductionHypothesis =>
      rw [passes]
      exact inductionHypothesis _
  | taken piece lexeme rest takes inductionHypothesis =>
      rw [takes.tokensFrom_append]
      exact .cons (Nat.lt_add_of_pos_right takes.width_pos)
        (fun _ member => le_start_of_mem_tokensFrom member) (inductionHypothesis _)

/-! ## The part that tokens cover -/

/-- A text can be cut in front of any of its tokens, so that what is left begins with that
token. -/
theorem exists_cut_before {offset : Nat} {text : Text} {front rest : List Token}
    (split : tokensFrom offset text = front ++ rest) :
    ∃ before after, text = before ++ after ∧ tokensFrom (offset + width before) after = rest ∧
      ∀ first ∈ rest.head?, first.span.start = offset + width before := by
  induction text using induction_on_tokens generalizing offset front with
  | nil =>
      rw [tokensFrom_nil] at split
      obtain ⟨_, rfl⟩ := List.append_eq_nil_iff.mp split.symm
      exact ⟨[], [], rfl, tokensFrom_nil _, fun _ member => by cases member⟩
  | skipped character text passes inductionHypothesis =>
      rw [passes] at split
      obtain ⟨before, after, rfl, tokens, starts⟩ := inductionHypothesis split
      rw [Nat.add_assoc] at tokens starts
      exact ⟨character :: before, after, rfl, tokens, starts⟩
  | taken piece lexeme text takes inductionHypothesis =>
      cases front with
      | nil =>
          refine ⟨[], piece ++ text, rfl, split, ?_⟩
          intro first member
          rw [← List.nil_append rest, ← split, takes.tokensFrom_append] at member
          cases member
          rfl
      | cons token front =>
          rw [takes.tokensFrom_append, List.cons_append, List.cons.injEq] at split
          obtain ⟨before, after, rfl, tokens, starts⟩ := inductionHypothesis split.2
          rw [Nat.add_assoc, ← Text.width_append] at tokens starts
          exact ⟨piece ++ before, after, (List.append_assoc _ _ _).symm, tokens, starts⟩

/-- A text can be cut behind any of its tokens, and the tokens in front of the cut are the
same. -/
theorem exists_cut_behind {offset : Nat} {text : Text} {front rest : List Token}
    (split : tokensFrom offset text = front ++ rest) (nonempty : front ≠ []) :
    ∃ part after, text = part ++ after ∧ tokensFrom offset part = front ∧
      ∀ last ∈ front.getLast?, last.span.stop = offset + width part := by
  induction text using induction_on_tokens generalizing offset front with
  | nil =>
      rw [tokensFrom_nil] at split
      exact absurd (List.append_eq_nil_iff.mp split.symm).1 nonempty
  | skipped character text passes inductionHypothesis =>
      rw [passes] at split
      obtain ⟨part, after, rfl, tokens, stops⟩ := inductionHypothesis split nonempty
      rw [Nat.add_assoc] at stops
      exact ⟨character :: part, after, rfl, (passes offset part).trans tokens, stops⟩
  | taken piece lexeme text takes inductionHypothesis =>
      obtain ⟨token, front, rfl⟩ := List.exists_cons_of_ne_nil nonempty
      rw [takes.tokensFrom_append, List.cons_append, List.cons.injEq] at split
      obtain ⟨rfl, split⟩ := split
      cases front with
      | nil =>
          refine ⟨piece, text, rfl, ?_, ?_⟩
          · rw [← List.append_nil piece, takes.tokens [] List.nil_prefix, tokensFrom_nil,
              List.append_nil]
          · rintro last ⟨⟩
            rfl
      | cons next front =>
          obtain ⟨part, after, rfl, tokens, stops⟩ :=
            inductionHypothesis split (List.cons_ne_nil _ _)
          rw [Nat.add_assoc, ← Text.width_append] at stops
          refine ⟨piece ++ part, after, (List.append_assoc _ _ _).symm, ?_, stops⟩
          rw [takes.tokens part (List.prefix_append _ _), tokens]

/-- Tokens that stand next to each other cover a part of the text, which has these tokens
and no others. -/
theorem exists_part {offset : Nat} {text : Text} {front part rest : List Token}
    (split : tokensFrom offset text = front ++ part ++ rest) (nonempty : part ≠ []) :
    ∃ before covered after, text = before ++ covered ++ after ∧
      tokensFrom (offset + width before) covered = part ∧
      (∀ first ∈ part.head?, first.span.start = offset + width before) ∧
      ∀ last ∈ part.getLast?, last.span.stop = offset + width before + width covered := by
  rw [List.append_assoc] at split
  obtain ⟨before, behind, rfl, tokens, starts⟩ := exists_cut_before split
  obtain ⟨covered, after, rfl, coveredTokens, stops⟩ := exists_cut_behind tokens nonempty
  refine ⟨before, covered, after, (List.append_assoc _ _ _).symm, coveredTokens, ?_, stops⟩
  intro first member
  exact starts first (List.mem_head?_append_of_mem_head? member)

end Query

end Concordance
