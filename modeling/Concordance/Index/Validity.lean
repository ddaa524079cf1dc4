import Concordance.Index.Basic
import Concordance.Text.Quoted

/-!
Contract: the conditions every index meets.

Every document of a posting belongs to the index, and its positions are a
non-empty, ascending list of numbers from one to the document's cursor.

Owns: the defects of an index that breaks them, and their wording.

Does not own: when indexes are checked (`Concordance.Storage.Format`).
-/

set_option autoImplicit false

namespace Concordance.Index

/-- What is wrong with one list of positions. -/
inductive Defect where
  | unknownDocument (word document : Text)
  | noPositions (word document : Text)
  | wrongPosition (position : Nat) (word document : Text)
deriving DecidableEq, Repr

/-- Wording of a defect. -/
def Defect.message : Defect → Text
  | unknownDocument word document =>
      Text.concat
        ["word ", word.quoted, " references unknown document ", document.quoted]
  | noPositions word document =>
      Text.concat ["empty posting list for ", word.quoted, " in ", document.quoted]
  | wrongPosition position word document =>
      Text.concat
        ["invalid position ", Text.decimal position, " for ", word.quoted, " in ",
          document.quoted]

/-- The first position that does not lie after `previous` and the ones before it,
or lies past `cursor`. -/
def wrongPosition? (cursor previous : Nat) : List Nat → Option Nat
  | [] => none
  | position :: rest =>
      if position ≤ previous || cursor < position then some position
      else wrongPosition? cursor position rest

/-- What is wrong with the positions of a word in a document. -/
def positionsDefect? (index : Index) (word document : Text) (positions : List Nat) :
    Option Defect :=
  match index.cursor? document with
  | none => some (.unknownDocument word document)
  | some cursor =>
      if positions.isEmpty then some (.noPositions word document)
      else (wrongPosition? cursor 0 positions).map (.wrongPosition · word document)

/-- The first defect of an index, by word and then by document. -/
def defect? (index : Index) : Option Defect :=
  index.terms.toList.findSome? fun entry =>
    entry.2.toList.findSome? fun posting =>
      index.positionsDefect? entry.1 posting.1 posting.2

/-- Whether an index meets all conditions. -/
def isValid (index : Index) : Bool := index.defect?.isNone

end Concordance.Index
