import Concordance.Html.Block
import Concordance.Proofs.Html.Pattern

/-!
Contract: documents as sequences of items.

A document in good order is made of texts, tags, comments, and elements whose content is
hidden. Names are compared without their case, in which the long s is an s.

Owns:
- the items, how they are written and which of them are well formed;
- what an item leaves of itself when hidden content is dropped, and the parts between tags.

Does not own: what markup in any other order is read as (`Concordance.Html.Block`).
-/

set_option autoImplicit false

namespace Concordance.Html

open Concordance.Text (isBlank)

/-- The names of the elements whose content is hidden. -/
def hiddenNames : List Text := ["script", "style"]

/-- A text begins with a name, in letters of either case, behind which a word ends. -/
def BeginsWith (name text : Text) : Prop :=
  ∃ written rest, text = written ++ rest ∧ written.map foldCase = name ∧ endsWord rest = true

theorem beginsWith_iff (name text : Text) :
    BeginsWith name text ↔ ∃ rest ∈ afterName? name text, endsWord rest = true := by
  constructor
  · rintro ⟨written, rest, rfl, spelled, ends⟩
    exact ⟨rest, afterName?_append spelled rest, ends⟩
  · rintro ⟨rest, found, ends⟩
    obtain ⟨written, rfl, spelled⟩ := afterName?_eq_some_iff.mp found
    exact ⟨written, rest, rfl, spelled, ends⟩

instance (name text : Text) : Decidable (BeginsWith name text) :=
  decidable_of_iff _ (beginsWith_iff name text).symm

/-- A text is the closing tag of an element. Blanks may stand behind the name. -/
def IsClosingTag (name tag : Text) : Prop :=
  ∃ written blanks, tag = "</".toList ++ (written ++ (blanks ++ ">".toList)) ∧
    written.map foldCase = name ∧ ∀ character ∈ blanks, isBlank character = true

/-- A part of a document. An element has the name and the attributes of its opening tag,
its content, and its closing tag. -/
inductive Item where
  | text (characters : Text)
  | tag (body : Text)
  | comment (body : Text)
  | element (name attributes body closing : Text)
deriving DecidableEq, Repr

namespace Item

/-- An item as it is written. -/
def source : Item → Text
  | text characters => characters
  | tag body => "<".toList ++ (body ++ ">".toList)
  | comment body => "<!--".toList ++ (body ++ "-->".toList)
  | element name attributes body closing =>
      "<".toList ++ (name ++ (attributes ++ (">".toList ++ (body ++ closing))))

/-- An item that is read as what it is. No text has an opening bracket. A tag has no
bracket inside and begins neither like a comment nor like an element with hidden content. A
comment and an element end where they first can. -/
inductive WellFormed : Item → Prop
  | text {characters : Text} (free : '<' ∉ characters) : WellFormed (.text characters)
  | tag {body : Text} (unopened : '<' ∉ body) (unclosed : '>' ∉ body)
      (notComment : ¬"!--".toList <+: body)
      (notElement : ∀ name ∈ hiddenNames, ¬BeginsWith name body) : WellFormed (.tag body)
  | comment {body : Text} (free : ¬"-->".toList <:+: body) : WellFormed (.comment body)
  | element {plain name attributes body closing : Text} (known : plain ∈ hiddenNames)
      (named : name.map foldCase = plain)
      (parted : ∀ first ∈ attributes.head?, isBlank first = true)
      (unclosed : '>' ∉ attributes) (closes : IsClosingTag plain closing)
      (free : ∀ tag, IsClosingTag plain tag → ¬tag <:+: body) :
      WellFormed (.element name attributes body closing)

/-- What is left of an item when hidden content is dropped: a blank in the place of a
comment or an element, and all else as it is written. -/
def shown : Item → Text
  | text characters => characters
  | tag body => (tag body).source
  | comment _ => " ".toList
  | element _ _ _ _ => " ".toList

def isTag : Item → Bool
  | tag _ => true
  | _ => false

end Item

/-- The document that a sequence of items is. -/
def markup (items : List Item) : Text := items.flatMap Item.source

/-- What is shown between the tags of a sequence of items. -/
def shownParts (items : List Item) : List Text :=
  (items.splitOnP Item.isTag).map fun part => part.flatMap Item.shown

theorem shownParts_nil : shownParts [] = [[]] := by
  rw [shownParts, List.splitOnP_nil]
  rfl

theorem shownParts_tag (body : Text) (items : List Item) :
    shownParts (.tag body :: items) = [] :: shownParts items := by
  have isTag : (Item.tag body).isTag = true := rfl
  rw [shownParts, List.splitOnP_cons_eq_if_modifyHead, if_pos isTag]
  rfl

/-- What is shown of an item that is no tag comes in front of the first part. -/
theorem shownParts_cons {item : Item} (notTag : item.isTag = false) (items : List Item) :
    shownParts (item :: items) = (shownParts items).modifyHead (item.shown ++ ·) := by
  rw [shownParts, List.splitOnP_cons_eq_if_modifyHead, if_neg (by simp [notTag]), shownParts]
  cases items.splitOnP Item.isTag with
  | nil => rfl
  | cons part others => rfl

end Concordance.Html
