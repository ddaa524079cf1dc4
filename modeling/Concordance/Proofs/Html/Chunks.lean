import Concordance.Html.Content
import Concordance.Proofs.Html.Reference
import Concordance.Proofs.Html.Visible

/-!
Contract: the chunks of text of a document in good order.

What is left of a document without its blocks is cut at tags, which are those of its items.
Between two tags everything that is shown stays in one piece, also across what was dropped.

Owns:
- the pieces of what is shown of a document;
- the chunks and the words of a document in good order.

Does not own: the links of a document (`Concordance.Html.Anchor`).
-/

set_option autoImplicit false

namespace Concordance.Html

open Concordance.Text (isBlank)

/-! ## Cutting at tags -/

theorem pieces_nil : pieces [] = [[]] := by
  rw [pieces]

theorem extendFirst_eq (character : Char) {texts : List Text} (nonempty : texts ≠ []) :
    extendFirst character texts = texts.modifyHead (character :: ·) := by
  obtain ⟨first, others, rfl⟩ := List.exists_cons_of_ne_nil nonempty
  rfl

theorem pieces_ne_nil (text : Text) : pieces text ≠ [] := by
  fun_induction pieces text with
  | case1 => exact List.cons_ne_nil _ _
  | case2 => exact List.cons_ne_nil _ _
  | case3 rest missing inductionHypothesis =>
      rw [extendFirst_eq _ inductionHypothesis]
      simpa using inductionHypothesis
  | case4 character rest notOpening inductionHypothesis =>
      rw [extendFirst_eq _ inductionHypothesis]
      simpa using inductionHypothesis

theorem pieces_append {text : Text} (free : '<' ∉ text) (rest : Text) :
    pieces (text ++ rest) = (pieces rest).modifyHead (text ++ ·) := by
  induction text with
  | nil =>
      obtain ⟨first, others, found⟩ := List.exists_cons_of_ne_nil (pieces_ne_nil rest)
      rw [List.nil_append, found]
      rfl
  | cons character others inductionHypothesis =>
      rw [List.mem_cons, not_or] at free
      rw [List.cons_append, pieces, if_neg (Ne.symm free.1),
        extendFirst_eq _ (pieces_ne_nil _), inductionHypothesis free.2,
        List.modifyHead_modifyHead]
      rfl

theorem pieces_tag {body : Text} (unclosed : '>' ∉ body) (rest : Text) :
    pieces ((Item.tag body).source ++ rest) = [] :: pieces rest := by
  have closed := afterChar?_append unclosed rest
  have whole : (Item.tag body).source ++ rest = '<' :: (body ++ '>' :: rest) := by
    simp [Item.source]
  rw [whole, pieces, if_pos rfl]
  split
  · rename_i other
    cases closed.symm.trans other
    rfl
  · rename_i other
    cases closed.symm.trans other

/-- The pieces of what is shown are cut where the tags are. -/
theorem pieces_shown {items : List Item} (wellFormed : ∀ item ∈ items, item.WellFormed) :
    pieces (items.flatMap Item.shown) = shownParts items := by
  induction items with
  | nil => rw [List.flatMap_nil, pieces_nil, shownParts_nil]
  | cons item others inductionHypothesis =>
      have later := inductionHypothesis fun other member =>
        wellFormed other (List.mem_cons_of_mem _ member)
      have blankFree : '<' ∉ " ".toList := by decide
      rw [List.flatMap_cons]
      cases wellFormed item List.mem_cons_self with
      | text free =>
          rw [shownParts_cons rfl, ← later]
          exact pieces_append free _
      | tag unopened unclosed notComment notElement =>
          rw [shownParts_tag, ← later]
          exact pieces_tag unclosed _
      | comment free =>
          rw [shownParts_cons rfl, ← later]
          exact pieces_append blankFree _
      | element known named parted unclosed closes free =>
          rw [shownParts_cons rfl, ← later]
          exact pieces_append blankFree _

/-! ## Chunks and words -/

/-- A text of blanks alone stands for itself, and has no words. -/
theorem words_decode_of_isBlank {text : Text} (blank : text.all isBlank = true) :
    (decode text).words = [] := by
  have each : ∀ character ∈ text, isBlank character = true := List.all_eq_true.mp blank
  have plain : '&' ∉ text := by
    intro member
    exact absurd (each '&' member) (by decide)
  have separators : ∀ character ∈ text, Text.isLetter character = false := by
    intro character member
    by_contra letter
    rw [Bool.not_eq_false] at letter
    have notBlank := Text.isBlank_eq_false_of_isLetter letter
    rw [each character member] at notBlank
    cases notBlank
  rw [decode_eq_self plain, ← List.length_eq_zero_iff, Text.length_words,
    (Text.letterRuns_eq_nil_iff text).mpr separators, List.length_nil]

/-- The words of a text as they are indexed. -/
def spelledWords (text : Text) : List Text := text.words.map Text.Word.text

theorem flatMap_spelledWords_filter (parts : List Text) :
    ((parts.filter fun part => !part.all isBlank).map decode).flatMap spelledWords
      = parts.flatMap fun part => spelledWords (decode part) := by
  induction parts with
  | nil => rfl
  | cons part others inductionHypothesis =>
      by_cases blank : part.all isBlank = true
      · have none : spelledWords (decode part) = [] := by
          rw [spelledWords, words_decode_of_isBlank blank, List.map_nil]
        rw [List.filter_cons_of_neg (by simp [blank]), inductionHypothesis, List.flatMap_cons,
          none, List.nil_append]
      · rw [List.filter_cons_of_pos (by simp [blank]), List.map_cons, List.flatMap_cons,
          inductionHypothesis, List.flatMap_cons]

/-- The chunks of a document in good order are the parts between its tags, with a blank in
the place of each comment and each element with hidden content; those of blanks alone are left
out, and references are decoded in the others. So its words are those of all its parts, each
once and in order, and none from hidden content. -/
theorem chunks_markup {items : List Item} (wellFormed : ∀ item ∈ items, item.WellFormed) :
    (content (markup items)).chunks
        = ((shownParts items).filter fun part => !part.all isBlank).map decode ∧
      (content (markup items)).chunks.flatMap spelledWords
        = (shownParts items).flatMap fun part => spelledWords (decode part) := by
  have found : (content (markup items)).chunks
      = ((shownParts items).filter fun part => !part.all isBlank).map decode := by
    rw [content, chunks, visible_markup wellFormed, pieces_shown wellFormed]
  refine ⟨found, ?_⟩
  rw [found]
  exact flatMap_spelledWords_filter _

/-- A document whose comment has a tag and half a mark inside, whose script has half a
closing tag and the beginning of a comment, and which has a tag with a longer name than that of
a script. -/
def menuItems : List Item :=
  [.text "fish &amp; ", .comment "- <b> --", .text "chips", .tag "scripts",
    .element "ScRiPt" " x='<'" "a </script b <!--" "</SCRIPT>", .tag "br", .text " \n", .tag "/p",
    .text "1 > 0"]

theorem chunks_markup_menuItems :
    (∀ item ∈ menuItems, item.WellFormed) ∧
      (content ("fish &amp; <!--- <b> ---->chips<scripts><ScRiPt x='<'>a </script b <!--".toList
          ++ "</SCRIPT><br> \n</p>1 > 0".toList)).chunks
        = ["fish &  chips", "1 > 0"] := by
  have tag : ∀ body ∈ (["scripts", "br", "/p"] : List Text), (Item.tag body).WellFormed := by
    intro body member
    have plain : ∀ body ∈ (["scripts", "br", "/p"] : List Text),
        '<' ∉ body ∧ '>' ∉ body ∧ ¬"!--".toList <+: body ∧
          ∀ name ∈ hiddenNames, ¬BeginsWith name body := by
      decide +kernel
    obtain ⟨unopened, unclosed, notComment, notElement⟩ := plain body member
    exact .tag unopened unclosed notComment notElement
  have element :
      (Item.element "ScRiPt" " x='<'" "a </script b <!--" "</SCRIPT>").WellFormed := by
    have closes : IsClosingTag "script" "</SCRIPT>" :=
      ⟨"SCRIPT", [], rfl, by decide, fun _ none => absurd none List.not_mem_nil⟩
    have parted : ∀ first ∈ (" x='<'" : Text).head?, isBlank first = true := by
      intro first isFirst
      cases isFirst
      decide +kernel
    refine .element (by decide) (by decide) parted (by decide) closes ?_
    rintro tag ⟨written, blanks, rfl, _, _⟩ within
    have bracket : '>' ∈ "a </script b <!--".toList := within.subset (by simp)
    exact absurd bracket (by decide)
  have wellFormed : ∀ item ∈ menuItems, item.WellFormed := by
    intro item member
    simp only [menuItems, List.mem_cons, List.not_mem_nil, or_false] at member
    rcases member with rfl | rfl | rfl | rfl | rfl | rfl | rfl | rfl | rfl
    · exact .text (by decide)
    · exact .comment (by decide)
    · exact .text (by decide)
    · exact tag _ (by decide)
    · exact element
    · exact tag _ (by decide)
    · exact .text (by decide)
    · exact tag _ (by decide)
    · exact .text (by decide)
  have written : "fish &amp; <!--- <b> ---->chips<scripts><ScRiPt x='<'>a </script b <!--".toList
      ++ "</SCRIPT><br> \n</p>1 > 0".toList = markup menuItems := by decide +kernel
  refine ⟨wellFormed, ?_⟩
  rw [written, (chunks_markup wellFormed).1]
  decide +kernel

end Concordance.Html
