import Concordance.Query.Evaluation
import Concordance.Query.Parser

/-!
Contract: searching an index with a query text.

Owns: `search`, which parses and evaluates, and its records.

Does not own: how results are shown (`Concordance.Command.Report`).
-/

set_option autoImplicit false

namespace Concordance.Query

open Concordance.Journal (Record)

/-- The documents that match a query. -/
def search (limit : Nat) (index : Index) (query : Text) :
    Except ParseError DocumentSet :=
  (parse limit query).map (evaluate index)

/-- The record of a query that has been parsed. -/
def parseRecord (tree : Tree) : Record :=
  ⟨.trace, .parsing, Text.concat ["Parsed query: ", tree.render]⟩

/-- Wording of the outcome of a query. -/
def outcomeMessage (index : Index) (tree : Tree) : Text :=
  Text.concat
    ["Query ", tree.render, " matched ", Text.decimal (evaluate index tree).size,
      " documents"]

/-- The records of a search. A query that is refused leaves none. -/
def searchRecords (limit : Nat) (index : Index) (query : Text) : List Record :=
  match parse limit query with
  | .error _ => []
  | .ok tree =>
      parseRecord tree :: evaluationRecords index tree
        ++ [⟨.debug, .search, outcomeMessage index tree⟩]

end Concordance.Query
