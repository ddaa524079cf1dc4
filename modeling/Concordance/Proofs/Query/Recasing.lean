import Concordance.Proofs.Query.Tokens
import Concordance.Proofs.Text.Recasing
import Concordance.Query.Search

/-!
Contract: the case of ASCII letters makes no difference to a search.

Operators are no letters, so the search for tokens goes through a query and a recased one in
the same steps and finds the same words at the same places. An index sees of a text nothing
but its words. So whether a query is read, where it is refused, and what it finds are all the
same for other letter cases, in the query, in the texts, or in both.

Owns:
- the tokens of a recased query;
- the index of recased texts;
- searches in recased texts with a recased query.

Does not own: the words of a recased text (`Concordance.Proofs.Text.Recasing`).
-/

set_option autoImplicit false

namespace Concordance

/-! ## Texts of an index -/

namespace Index

/-- An index sees of a text nothing but its words. -/
theorem addText_congr {text other : Text} (same : other.words = text.words) (index : Index)
    (document : Text) : index.addText document other = index.addText document text := by
  rw [addText, addText, same]

/-- A document with a text, and the same document with the text in other letter cases. -/
def RecasedEntry (own changed : Text × Text) : Prop :=
  changed.1 = own.1 ∧ Text.Recased own.2 changed.2

instance (own changed : Text × Text) : Decidable (RecasedEntry own changed) :=
  inferInstanceAs (Decidable (_ ∧ _))

theorem ofTexts_eq_of_recased {texts others : List (Text × Text)}
    (recased : List.Forall₂ RecasedEntry texts others) : ofTexts others = ofTexts texts := by
  refine List.rel_foldl (P := fun changed own => changed = own) ?_ rfl recased.flip
  rintro index _ rfl ⟨document, other⟩ ⟨_, text⟩ ⟨rfl, recase⟩
  exact congrArg Prod.fst (addText_congr recase.words_eq index document)

end Index

namespace Query

open Concordance.Text (Recased isLetter lowerCase)

/-! ## Tokens of a query -/

theorem ofChar?_toLower (character : Char) :
    Symbol.ofChar? character.toLower = Symbol.ofChar? character :=
  Text.apply_toLower Symbol.ofChar? (by decide +kernel) character

/-- The search for tokens goes through both texts in the same steps. -/
theorem tokensFrom_lowerAscii (offset : Nat) (text : Text) :
    tokensFrom offset text.lowerAscii = tokensFrom offset text := by
  induction text using Text.induction_on_runs generalizing offset with
  | nil => rfl
  | separator character rest separator inductionHypothesis =>
      have lowered : isLetter character.toLower = false := by
        rw [Text.isLetter_toLower, separator]
      rw [Text.lowerAscii_cons]
      cases found : Symbol.ofChar? character with
      | none =>
          have notSymbol := (ofChar?_toLower character).trans found
          rw [tokensFrom_separator lowered notSymbol, tokensFrom_separator separator found,
            Text.utf8Size_toLower, inductionHypothesis]
      | some symbol =>
          have isSymbol := (ofChar?_toLower character).trans found
          rw [tokensFrom_symbol isSymbol, tokensFrom_symbol found, Text.utf8Size_toLower,
            inductionHypothesis]
  | run run rest isRun ends inductionHypothesis =>
      rw [Text.lowerAscii_append, tokensFrom_run isRun.lowerAscii ends.lowerAscii,
        tokensFrom_run isRun ends, Text.lowerCase_lowerAscii, Text.width_lowerAscii,
        inductionHypothesis]

theorem tokenize_eq_of_recased {query other : Text} (recased : Recased query other) :
    tokenize other = tokenize query := by
  rw [tokenize, tokenize, ← tokensFrom_lowerAscii, recased.lowerAscii_eq,
    tokensFrom_lowerAscii]

/-! ## Searches -/

/-- Changing the case of any ASCII letters, in the texts and in the query, changes neither
the index nor the answer. The words of the texts keep their ordinals and offsets, and the
tokens of the query keep their spans. -/
theorem search_recased (limit : Nat) {texts others : List (Text × Text)} {query other : Text}
    (recasedTexts : List.Forall₂ Index.RecasedEntry texts others)
    (recasedQuery : Recased query other) :
    search limit (Index.ofTexts others) other = search limit (Index.ofTexts texts) query ∧
      Index.ofTexts others = Index.ofTexts texts ∧
      List.Forall₂ (fun own changed => changed.2.words = own.2.words) texts others ∧
      tokenize other = tokenize query := by
  have sameIndex := Index.ofTexts_eq_of_recased recasedTexts
  have sameTokens := tokenize_eq_of_recased recasedQuery
  refine ⟨?_, sameIndex, recasedTexts.imp fun own changed recased => recased.2.words_eq,
    sameTokens⟩
  rw [search, search, parse, parse, sameIndex, sameTokens]

/-- Texts in which ASCII letters stand before and behind capital sigmas, and decide their
form. -/
def sigmaTexts : List (Text × Text) := [("end", "OxΣ 42, İs"), ("middle", "oxΣa'OXΣ")]

/-- The same texts in other letter cases. -/
def recasedSigmaTexts : List (Text × Text) :=
  [("end", "oXΣ 42, İS"), ("middle", "OXΣA'oxΣ")]

theorem search_recased_sigmaTexts :
    List.Forall₂ Index.RecasedEntry sigmaTexts recasedSigmaTexts ∧
    Recased "!\"oxΣa OXς\"" "!\"OxΣA oXς\"" ∧
    (search 8 (Index.ofTexts recasedSigmaTexts) "!\"OxΣA oXς\""
        = search 8 (Index.ofTexts sigmaTexts) "!\"oxΣa OXς\"" ∧
      Index.ofTexts recasedSigmaTexts = Index.ofTexts sigmaTexts ∧
      List.Forall₂ (fun own changed => changed.2.words = own.2.words) sigmaTexts
        recasedSigmaTexts ∧
      tokenize "!\"OxΣA oXς\"" = tokenize "!\"oxΣa OXς\"") ∧
    (search 8 (Index.ofTexts sigmaTexts) "!\"oxΣa OXς\"").toOption.map (·.toList)
      = some ["end".toList] := by
  have recasedTexts : List.Forall₂ Index.RecasedEntry sigmaTexts recasedSigmaTexts := by
    decide +kernel
  have recasedQuery : Recased "!\"oxΣa OXς\"" "!\"OxΣA oXς\"" := by decide +kernel
  refine ⟨recasedTexts, recasedQuery, ?_, by decide +kernel⟩
  exact search_recased 8 recasedTexts recasedQuery

end Query

end Concordance
