import Concordance.Text.Basic
import Std.Data.ExtTreeSet

/-!
Contract: sets of documents.

A document is named by its key. Sets are extensional: two sets with the same
members are equal, and their members are listed in ascending order.

Owns: the type, its operations, its written form and the members a text begins.

Does not own: complements, which need an index (`Concordance.Index.Lookup`).
-/

set_option autoImplicit false

namespace Concordance

/-- A set of document keys. -/
abbrev DocumentSet := Std.ExtTreeSet Text

namespace DocumentSet

/-- The set of the listed documents. -/
def ofList (documents : List Text) : DocumentSet := Std.ExtTreeSet.ofList documents

/-- The set with the listed documents added. -/
def extend (set : DocumentSet) (documents : List Text) : DocumentSet :=
  documents.foldl (fun extended document => extended.insert document) set

/-- The documents in either set: the members of the smaller one are added to the larger one. -/
def union (left right : DocumentSet) : DocumentSet :=
  if right.size ≤ left.size then left.extend right.toList else right.extend left.toList

/-- The documents in both sets: the members of the smaller one are looked up in the larger
one. -/
def intersection (left right : DocumentSet) : DocumentSet :=
  if left.size ≤ right.size then left.filter fun document => right.contains document
  else right.filter fun document => left.contains document

/-- The documents in the first set but not in the second. -/
def difference (left right : DocumentSet) : DocumentSet :=
  left.filter fun document => !right.contains document

/-- Whether two sets are equal: they are of one size, and the second one contains the first. -/
def equal (left right : DocumentSet) : Bool :=
  left.size = right.size && left.toList.all fun document => right.contains document

/-- The members whose keys begin with `beginning`. -/
def startingWith (beginning : Text) (set : DocumentSet) : DocumentSet :=
  set.filter fun document => beginning.isPrefixOf document

/-- Written form: the members in ascending order, in braces. -/
def render (set : DocumentSet) : Text :=
  Text.concat ["\x7b", Text.joined ", " set.toList, "\x7d"]

end DocumentSet

end Concordance
