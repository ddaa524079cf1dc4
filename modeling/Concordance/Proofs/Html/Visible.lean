import Concordance.Proofs.Html.Item
import Concordance.Proofs.Text.CharClass
import Mathlib.Data.List.TakeWhile

/-!
Contract: dropping the blocks of a document in good order.

Blocks are dropped from the front of a document on. Since no block begins inside a text or a
tag, and each comment or element with hidden content is one block, dropping stops at the
borders of items.

Owns:
- where blocks begin and end;
- what dropping blocks leaves of each kind of item, and of a document.

Does not own: what is done with the rest (`Concordance.Proofs.Html.Chunks`).
-/

set_option autoImplicit false

namespace Concordance.Html

open Concordance.Text (isBlank isWordlike)

/-! ## Dropping blocks -/

theorem visible_nil : visible [] = [] := by
  rw [visible]

theorem visible_cons_of_ne {character : Char} (notOpening : character ≠ '<') (rest : Text) :
    visible (character :: rest) = character :: visible rest := by
  rw [visible, if_neg notOpening]

theorem visible_block {text rest : Text} (found : afterBlock? text = some rest) :
    visible ('<' :: text) = ' ' :: visible rest := by
  rw [visible, if_pos rfl]
  split
  · rename_i other
    cases found.symm.trans other
    rfl
  · rename_i other
    cases found.symm.trans other

theorem visible_opening {text : Text} (missing : afterBlock? text = none) :
    visible ('<' :: text) = '<' :: visible text := by
  rw [visible, if_pos rfl]
  split
  · rename_i other
    cases missing.symm.trans other
  · rfl

theorem visible_append {text : Text} (free : '<' ∉ text) (rest : Text) :
    visible (text ++ rest) = text ++ visible rest := by
  induction text with
  | nil => rfl
  | cons character others inductionHypothesis =>
      rw [List.mem_cons, not_or] at free
      rw [List.cons_append, visible_cons_of_ne (Ne.symm free.1), inductionHypothesis free.2,
        List.cons_append]

/-! ## Tags are no blocks -/

/-- What fits at the front of a text that goes on with a mark it does not have fits in front
of that mark. -/
theorem prefix_of_append_eq {fixed rest body behind : Text} {mark : Char}
    (missing : mark ∉ fixed) (same : fixed ++ rest = body ++ mark :: behind) :
    ∃ between, body = fixed ++ between ∧ rest = between ++ mark :: behind := by
  rcases List.append_eq_append_iff.mp same with ⟨between, split, back⟩ | ⟨between, split, back⟩
  · exact ⟨between, split, back⟩
  · cases between with
    | nil =>
        rw [List.append_nil] at split
        exact ⟨[], by rw [split, List.append_nil], back.symm⟩
    | cons first others =>
        have marked : first = mark := (List.cons.inj back).1.symm
        exact absurd (by rw [split, marked]; simp) missing

theorem afterComment?_tag {body : Text} (notComment : ¬"!--".toList <+: body) (rest : Text) :
    afterComment? (body ++ '>' :: rest) = none := by
  rw [afterComment?, Option.bind_eq_none_iff]
  intro inside found
  have same := afterText?_eq_some_iff.mp found
  obtain ⟨between, split, _⟩ := prefix_of_append_eq (by decide) same.symm
  exact absurd ⟨between, split.symm⟩ notComment

/-- No hidden name has a bracket. -/
theorem bracket_notMem_of_mem_hiddenNames : ∀ name ∈ hiddenNames, '>' ∉ name ∧ '<' ∉ name := by
  decide

theorem afterElement?_tag {name body : Text} (known : name ∈ hiddenNames)
    (notElement : ¬BeginsWith name body) (rest : Text) :
    afterElement? name (body ++ '>' :: rest) = none := by
  rw [afterElement?, Option.bind_eq_none_iff]
  intro attributes found
  obtain ⟨written, same, spelled⟩ := afterName?_eq_some_iff.mp found
  have missing : '>' ∉ written :=
    notMem_of_map_foldCase spelled (by decide) (bracket_notMem_of_mem_hiddenNames name known).1
  obtain ⟨between, split, behind⟩ := prefix_of_append_eq missing same.symm
  apply if_neg
  intro ends
  apply notElement
  refine ⟨written, between, split, spelled, ?_⟩
  cases between with
  | nil => rfl
  | cons first others =>
      rw [behind] at ends
      exact ends

/-- A tag begins no block. -/
theorem afterBlock?_tag {body : Text} (notComment : ¬"!--".toList <+: body)
    (notElement : ∀ name ∈ hiddenNames, ¬BeginsWith name body) (rest : Text) :
    afterBlock? (body ++ '>' :: rest) = none := by
  have script := afterElement?_tag (by decide) (notElement "script" (by decide)) rest
  have style := afterElement?_tag (by decide) (notElement "style" (by decide)) rest
  rw [afterBlock?, afterComment?_tag notComment, script, style]

/-! ## Comments and elements are blocks -/

/-- The end of a comment is found where the comment ends: a mark that began inside and ended
behind would have its last character among the first two. -/
theorem afterComment?_comment {body : Text} (free : ¬"-->".toList <:+: body) (rest : Text) :
    afterComment? ("!--".toList ++ (body ++ ("-->".toList ++ rest))) = some rest := by
  rw [afterComment?, afterText?_append, Option.bind_some]
  apply afterFirst?_append _ (afterText?_append _ _)
  intro before behind split nonempty
  rw [Option.eq_none_iff_forall_ne_some]
  intro left found
  have same : behind ++ ['-', '-', '>'] ++ rest = ['-', '-', '>'] ++ left := by
    rw [List.append_assoc]
    exact afterText?_eq_some_iff.mp found
  match behind with
  | [] => exact nonempty rfl
  | [_] => simp at same
  | [_, _] => simp at same
  | first :: second :: third :: others =>
      have fits : first = '-' ∧ second = '-' ∧ third = '>' := by simp_all
      obtain ⟨rfl, rfl, rfl⟩ := fits
      exact free ⟨before, others, by rw [split, List.append_assoc]; rfl⟩

theorem afterClosing?_eq_some_iff {name text rest : Text} :
    afterClosing? name text = some rest ↔ ∃ tag, IsClosingTag name tag ∧ text = tag ++ rest := by
  constructor
  · intro found
    obtain ⟨inside, opened, named⟩ := Option.bind_eq_some_iff.mp found
    obtain ⟨behind, spelled, ended⟩ := Option.bind_eq_some_iff.mp named
    obtain ⟨written, rfl, same⟩ := afterName?_eq_some_iff.mp spelled
    have closed := afterText?_eq_some_iff.mp ended
    refine ⟨_, ⟨written, behind.takeWhile isBlank, rfl, same, ?_⟩, ?_⟩
    · intro character member
      exact List.mem_takeWhile_imp member
    · have whole : behind = behind.takeWhile isBlank ++ (">".toList ++ rest) := by
        rw [← closed, List.takeWhile_append_dropWhile]
      rw [afterText?_eq_some_iff.mp opened, List.append_assoc, List.append_assoc,
        List.append_assoc, ← whole]
  · rintro ⟨tag, ⟨written, blanks, rfl, spelled, each⟩, rfl⟩
    have skipped : (blanks ++ (">".toList ++ rest)).dropWhile isBlank = ">".toList ++ rest := by
      rw [List.dropWhile_append_of_pos each]
      exact List.dropWhile_cons_of_neg (by decide)
    simp only [List.append_assoc]
    rw [afterClosing?, afterText?_append, Option.bind_some, afterName?_append spelled,
      Option.bind_some, skipped, afterText?_append]

/-- A closing tag has an opening bracket in front and nowhere else. -/
theorem IsClosingTag.exists_cons {name tag : Text} (known : name ∈ hiddenNames)
    (closes : IsClosingTag name tag) : ∃ inside, tag = '<' :: inside ∧ '<' ∉ inside := by
  obtain ⟨written, blanks, rfl, spelled, each⟩ := closes
  refine ⟨'/' :: (written ++ (blanks ++ ">".toList)), rfl, ?_⟩
  have inName : '<' ∉ written :=
    notMem_of_map_foldCase spelled (by decide) (bracket_notMem_of_mem_hiddenNames name known).2
  have inBlanks : '<' ∉ blanks := by
    intro member
    exact absurd (each '<' member) (by decide)
  simp [inName, inBlanks]

/-- The closing tag of an element is the first one that fits. -/
theorem afterFirst?_closing {name body closing : Text} (known : name ∈ hiddenNames)
    (closes : IsClosingTag name closing)
    (free : ∀ tag, IsClosingTag name tag → ¬tag <:+: body) (rest : Text) :
    afterFirst? (afterClosing? name) (body ++ (closing ++ rest)) = some rest := by
  apply afterFirst?_append _ (afterClosing?_eq_some_iff.mpr ⟨closing, closes, rfl⟩)
  intro before behind split nonempty
  rw [Option.eq_none_iff_forall_ne_some]
  intro left found
  obtain ⟨tag, isTag, same⟩ := afterClosing?_eq_some_iff.mp found
  obtain ⟨inside, rfl, _⟩ := closes.exists_cons known
  obtain ⟨others, rfl, unopened⟩ := isTag.exists_cons known
  obtain ⟨first, later, rfl⟩ := List.exists_cons_of_ne_nil nonempty
  obtain ⟨opens, behindFirst⟩ := List.cons.inj same
  obtain ⟨between, fits, _⟩ := prefix_of_append_eq unopened behindFirst.symm
  apply free _ isTag
  exact ⟨before, between, by rw [split, fits, opens, List.append_assoc, List.cons_append]⟩

/-- An element with hidden content is read up to its end, whatever stands in front of its
closing tag. -/
theorem afterElement?_element {plain name attributes body closing : Text}
    (known : plain ∈ hiddenNames) (named : name.map foldCase = plain)
    (parted : ∀ first ∈ attributes.head?, isBlank first = true) (unclosed : '>' ∉ attributes)
    (closes : IsClosingTag plain closing)
    (free : ∀ tag, IsClosingTag plain tag → ¬tag <:+: body) (rest : Text) :
    afterElement? plain (name ++ (attributes ++ '>' :: (body ++ (closing ++ rest))))
      = some rest := by
  have ends : endsWord (attributes ++ '>' :: (body ++ (closing ++ rest))) = true := by
    cases attributes with
    | nil => exact (by decide +kernel : endsWord ['>'] = true)
    | cons first others =>
        have blank : isBlank first = true := parted first rfl
        have apart := Text.isWordlike_eq_false_of_isBlank blank
        simp [endsWord, apart]
  rw [afterElement?, afterName?_append named, Option.bind_some, if_pos ends,
    afterChar?_append unclosed, Option.bind_some]
  exact afterFirst?_closing known closes free rest

/-- No comment begins with the name of an element. -/
theorem afterComment?_name {plain name : Text} (known : plain ∈ hiddenNames)
    (named : name.map foldCase = plain) (rest : Text) :
    afterComment? (name ++ rest) = none := by
  have letters : ∀ hidden ∈ hiddenNames, hidden ≠ [] ∧ '!' ∉ hidden := by decide
  have missing : '!' ∉ name :=
    notMem_of_map_foldCase named (by decide) (letters plain known).2
  rw [afterComment?, Option.bind_eq_none_iff]
  intro inside found
  have same : name ++ rest = ['!', '-', '-'] ++ inside := afterText?_eq_some_iff.mp found
  cases name with
  | nil => exact absurd named.symm (letters plain known).1
  | cons first others =>
      rw [(List.cons.inj same).1] at missing
      exact absurd List.mem_cons_self missing

/-- An element with hidden content is a block, and of its own kind. -/
theorem afterBlock?_element {plain name : Text} (known : plain ∈ hiddenNames)
    (named : name.map foldCase = plain) {behind rest : Text}
    (found : afterElement? plain (name ++ behind) = some rest) :
    afterBlock? (name ++ behind) = some rest := by
  rw [afterBlock?, afterComment?_name known named]
  have either : plain = "script" ∨ plain = "style" := by simpa [hiddenNames] using known
  rcases either with rfl | rfl
  · rw [found]
  · have other : afterElement? "script" (name ++ behind) = none := by
      rw [afterElement?, afterName?_eq_none named (by decide) (by decide)]
      rfl
    rw [other]
    exact found

/-! ## Items -/

/-- What is dropped of an item does not depend on what follows it. -/
theorem visible_item {item : Item} (wellFormed : item.WellFormed) (rest : Text) :
    visible (item.source ++ rest) = item.shown ++ visible rest := by
  cases wellFormed with
  | text free => exact visible_append free rest
  | @tag body unopened unclosed notComment notElement =>
      have inside : '<' ∉ body ++ ['>'] := by simp [unopened]
      have shown : visible (body ++ '>' :: rest) = body ++ '>' :: visible rest := by
        simpa using visible_append inside rest
      have whole : (Item.tag body).source ++ rest = '<' :: (body ++ '>' :: rest) := by
        simp [Item.source]
      rw [whole, visible_opening (afterBlock?_tag notComment notElement rest), shown]
      simp [Item.shown, Item.source]
  | @comment body free =>
      have found : afterBlock? ("!--".toList ++ (body ++ ("-->".toList ++ rest))) = some rest := by
        rw [afterBlock?, afterComment?_comment free rest]
      have whole : (Item.comment body).source ++ rest
          = '<' :: ("!--".toList ++ (body ++ ("-->".toList ++ rest))) := by
        simp [Item.source]
      rw [whole, visible_block found]
      rfl
  | @element plain name attributes body closing known named parted unclosed closes free =>
      have found := afterElement?_element known named parted unclosed closes free rest
      have whole : (Item.element name attributes body closing).source ++ rest
          = '<' :: (name ++ (attributes ++ '>' :: (body ++ (closing ++ rest)))) := by
        simp [Item.source]
      rw [whole, visible_block (afterBlock?_element known named found)]
      rfl

theorem visible_markup {items : List Item} (wellFormed : ∀ item ∈ items, item.WellFormed) :
    visible (markup items) = items.flatMap Item.shown := by
  induction items with
  | nil => exact visible_nil
  | cons item others inductionHypothesis =>
      rw [markup, List.flatMap_cons, visible_item (wellFormed item List.mem_cons_self)]
      rw [List.flatMap_cons]
      exact congrArg (item.shown ++ ·)
        (inductionHypothesis fun other member => wellFormed other (List.mem_cons_of_mem _ member))

end Concordance.Html
