import Concordance.Proofs.Query.Composition
import Concordance.Proofs.Query.Lasting
import Concordance.Proofs.Query.Resuming

/-!
Contract: what a text says can be found by quoting it.

A text is split into words when it is added, and a query when it is read, each for itself. A
passage that is cut out of a text between its words gives the same words in a row, whatever
else stands around them there or between them. Quoted they are one phrase, and not quoted
one run of words, and either is found wherever the text has been added.

Owns:
- passages of a text, and their words;
- passages as queries;
- that the document of a passage is found, now and later.

Does not own: answers that last (`Concordance.Proofs.Query.Lasting`).
-/

set_option autoImplicit false

namespace Concordance.Query

open Concordance.Index (Change)
open Concordance.Text (EndsLetters InsideRun isLetter letterRuns lowerCase)

/-! ## Passages -/

/-- A part of a text that begins and ends between runs of letters, and has a letter but no
character of the query language. -/
structure IsPassage (before passage after : Text) : Prop where
  begins : ¬InsideRun before (passage ++ after)
  ends : ¬InsideRun (before ++ passage) after
  lettered : ∃ character ∈ passage, isLetter character = true
  plain : ∀ character ∈ passage, Symbol.ofChar? character = none

theorem isPassage_iff (before passage after : Text) :
    IsPassage before passage after ↔
      (¬InsideRun before (passage ++ after) ∧ ¬InsideRun (before ++ passage) after) ∧
        (passage.any isLetter && passage.all fun character => (Symbol.ofChar? character).isNone)
          = true := by
  rw [Bool.and_eq_true, List.any_eq_true, List.all_eq_true]
  simp only [Option.isNone_iff_eq_none]
  exact ⟨fun ⟨begins, ends, lettered, plain⟩ => ⟨⟨begins, ends⟩, lettered, plain⟩,
    fun ⟨⟨begins, ends⟩, lettered, plain⟩ => ⟨begins, ends, lettered, plain⟩⟩

instance (before passage after : Text) : Decidable (IsPassage before passage after) :=
  decidable_of_iff _ (isPassage_iff before passage after).symm

namespace IsPassage

variable {before passage after : Text}

theorem letterRuns_eq (isPassage : IsPassage before passage after) :
    letterRuns (before ++ passage ++ after)
      = letterRuns before ++ letterRuns passage ++ letterRuns after := by
  have begins := (Text.not_insideRun_iff _ _).mp isPassage.begins
  have ends := (Text.not_insideRun_iff _ _).mp isPassage.ends
  rw [Text.letterRuns_append_of_apart ends,
    Text.letterRuns_append_of_apart (begins.imp_right EndsLetters.of_append)]

/-- The words of a passage stand in a row in the text. -/
theorem words_infix (isPassage : IsPassage before passage after) :
    (letterRuns passage).map lowerCase
      <:+: (letterRuns (before ++ passage ++ after)).map lowerCase := by
  rw [isPassage.letterRuns_eq, List.map_append, List.map_append]
  exact List.infix_append _ _ _

theorem words_ne_nil (isPassage : IsPassage before passage after) :
    (letterRuns passage).map lowerCase ≠ [] := by
  obtain ⟨character, member, letter⟩ := isPassage.lettered
  rw [Ne, List.map_eq_nil_iff, Text.letterRuns_eq_nil_iff]
  intro separators
  rw [separators character member] at letter
  cases letter

end IsPassage

/-! ## Passages as queries -/

/-- A text without symbols is read as its words. -/
theorem lexemesOf_of_plain {text : Text}
    (plain : ∀ character ∈ text, Symbol.ofChar? character = none) :
    lexemesOf text = ((letterRuns text).map lowerCase).map .word := by
  induction text using Text.induction_on_runs with
  | nil => exact lexemesOf_nil
  | separator character rest separator inductionHypothesis =>
      obtain ⟨notSymbol, others⟩ := List.forall_mem_cons.mp plain
      rw [lexemesOf_separator separator notSymbol, inductionHypothesis others,
        Text.letterRuns_cons separator]
  | run run rest isRun ends inductionHypothesis =>
      have others := (List.forall_mem_append.mp plain).2
      rw [lexemesOf_run isRun ends, inductionHypothesis others,
        Text.letterRuns_append isRun.nonempty isRun.letters ends, List.map_cons, List.map_cons]

theorem lexemesOf_quotation (text : Text) :
    lexemesOf ('"' :: (text ++ ['"'])) = .symbol .quote :: (lexemesOf text ++ [.symbol .quote]) :=
  (Reads.symbol .quote (Reads.append Symbol.quote.isLetter_char (reads_lexemesOf text)
    (Reads.symbol .quote .nil))).lexemesOf_eq

/-! ## Added texts -/

/-- A literal that holds in the words of a text holds in the document that the text is added
to, whatever else the document has. -/
theorem Literal.HoldsIn.addText {text : Text} {literal : Literal}
    (holds : literal.HoldsIn ((letterRuns text).map lowerCase)) (index : Index)
    (document : Text) : literal.Holds (index.addText document text).1 document := by
  have represents := Index.Represents.ofTexts [(document, text)]
  have words : (Corpus.ofTexts [(document, text)]).wordsOf document
      = (letterRuns text).map lowerCase := by
    rw [wordsOf_ofTexts, wordsAdded_cons, if_pos rfl]
    exact List.append_nil _
  have alone : literal.Holds (Index.ofTexts [(document, text)]) document := by
    rw [Literal.holds_iff_holdsIn represents, words]
    exact holds
  rw [Index.addText_eq_merge]
  exact alone.merge_right index (alone.mem_allDocuments represents.sound)

/-- A passage of a text that is added to a valid index is a query that finds the document of
the text, with quotation marks and without, whatever texts are added later and whatever valid
indexes are folded in. No nesting is needed for it. Cursors have no end here. Where they take
four bytes this says something of the changes that leave `later` narrow (`Index.IsNarrow`), and
nothing of those that carry a cursor further. -/
theorem search_passage {index : Index} (valid : index.isValid = true)
    {before passage after : Text} (isPassage : IsPassage before passage after)
    {changes : List Change} (changesValid : ∀ change ∈ changes, change.IsValid)
    (document : Text) (limit : Nat) :
    let later := (index.addText document (before ++ passage ++ after)).1.after changes
    (∃ found, search limit later ('"' :: (passage ++ ['"'])) = .ok found ∧ document ∈ found) ∧
    ∃ found, search limit later passage = .ok found ∧ document ∈ found := by
  intro later
  have sound : later.Sound :=
    (((Index.isValid_iff index).mp valid).addText document _).after changesValid
  obtain ⟨first, others, words⟩ := List.exists_cons_of_ne_nil isPassage.words_ne_nil
  have inText : Literal.HoldsIn
      ((letterRuns (before ++ passage ++ after)).map lowerCase) ⟨first :: others, true⟩ := by
    refine ⟨List.cons_ne_nil _ _, ?_⟩
    rw [← words]
    exact isPassage.words_infix
  have quoted : Literal.Holds later document ⟨first :: others, true⟩ :=
    (inText.addText index document).grows (Index.Grows.after _ changes)
  have unquoted : Literal.Holds later document ⟨first :: others, false⟩ :=
    ⟨List.cons_ne_nil _ _, quoted.stands⟩
  have known : document ∈ later.allDocuments := quoted.mem_allDocuments sound
  have leaves : lexemesOf passage = (first :: others).map .word := by
    rw [lexemesOf_of_plain isPassage.plain, words]
  have phrase : Derives limit (.phrase first others) (tokenize ('"' :: (passage ++ ['"']))) := by
    refine ⟨?_, Nat.zero_le limit⟩
    rw [Expression.lexemes, ← leaves]
    exact (lexemesOf_quotation passage).symm
  have run : Derives limit (.run first others) (tokenize passage) :=
    ⟨leaves.symm, Nat.zero_le limit⟩
  obtain ⟨found, searched, members⟩ := phrase.exists_search sound
  obtain ⟨other, searchedOther, otherMembers⟩ := run.exists_search sound
  exact ⟨⟨found, searched, (members document).mpr ⟨known, quoted⟩⟩,
    ⟨other, searchedOther, (otherMembers document).mpr ⟨known, unquoted⟩⟩⟩

/-- The text is added to a document that has words. The passage goes over two lines and ends
in front of a mark that composes with its last letter, and symbols stand around it. -/
theorem search_passage_street :
    let before : Text := "(The \"lunch"
    let passage : Text := "-ΟΔΟΣ,\n2 Cafe"
    let after : Text := "\u0301s!)"
    let later := (lunchIndex.addText "lunch" (before ++ passage ++ after)).1.after feast
    lunchIndex.isValid = true ∧ IsPassage before passage after ∧
      (∀ change ∈ feast, change.IsValid) ∧
      (∃ found, search 0 later "\"-ΟΔΟΣ,\n2 Cafe\"" = .ok found ∧ "lunch".toList ∈ found) ∧
      (∃ found, search 0 later passage = .ok found ∧ "lunch".toList ∈ found) ∧
      later.positions? "οδος" "lunch" = some [6] := by
  intro before passage after later
  have valid : lunchIndex.isValid = true := by decide +kernel
  have isPassage : IsPassage before passage after := by decide +kernel
  have changesValid : ∀ change ∈ feast, change.IsValid := by decide +kernel
  obtain ⟨quoted, unquoted⟩ := search_passage valid isPassage changesValid "lunch" 0
  exact ⟨valid, isPassage, changesValid, quoted, unquoted, by decide +kernel⟩

end Concordance.Query
