import Concordance.Command.Invocation
import Concordance.Command.Report
import Concordance.Crawl.Wave
import Concordance.Query.Search
import Concordance.Storage.File

/-!
Contract: carrying out what a user asks for.

Only building an index changes the disk, and only if it succeeds.

Owns:
- what each action answers, changes and records;
- a refused query shown with carets under the part it is refused for;
- what is printed of a report.

Does not own: which records are shown (`Concordance.Command.LogFilter`) and how the
program ends (`Concordance.Command.Process`).
-/

set_option autoImplicit false

namespace Concordance.Command

open Concordance.Journal (Record)

/-- What an action leaves: its report or failure, the disk, and its records. -/
structure Outcome where
  result : Except Failure Report
  disk : Disk
  records : List Record

/-- A refused query with the query itself and carets under the part it is refused
for. -/
def annotate (query : Text) : Failure → Failure
  | .parse message (some span) =>
      .parse (Text.concat [message, "\n  ", query, "\n  ", span.caretLine query])
        (some span)
  | failure => failure

/-- The tree of a query, or the failure that shows where it is refused. -/
def readQuery (depthLimit : Nat) (query : Text) : Except Failure Query.Tree :=
  match Query.parse depthLimit query with
  | .error error => .error (annotate query (.ofParseError error))
  | .ok tree => .ok tree

/-- Crawls from paths and saves the index. -/
def build (disk : Disk) (building : Building) : Outcome :=
  let crawled := Crawl.crawl disk (.new building.crawl) building.paths
  match crawled.result with
  | .error failure => ⟨.error failure, disk, crawled.records⟩
  | .ok report =>
      let index := crawled.crawler.index
      match Storage.save disk building.output building.storage index with
      | .error failure => ⟨.error failure, disk, crawled.records⟩
      | .ok changed =>
          ⟨.ok (.construction ⟨building.output, report, index.statistics, 0⟩), changed,
            crawled.records
              ++ [Storage.saveRecord building.output building.storage index]⟩

/-- The records of a query that has been read. -/
def askRecords (index : Index) (tree : Query.Tree) : List Record :=
  Query.parseRecord tree :: Query.evaluationRecords index tree
    ++ [⟨.info, .command, Query.outcomeMessage index tree⟩]

/-- Searches a saved index. -/
def ask (disk : Disk) (asking : Asking) : Outcome :=
  match Storage.load disk asking.index with
  | .error failure => ⟨.error failure, disk, []⟩
  | .ok index =>
      let loaded := Storage.loadRecord asking.index index
      match readQuery asking.depthLimit asking.query with
      | .error failure => ⟨.error failure, disk, [loaded]⟩
      | .ok tree =>
          ⟨.ok (.page
              (.ofMatches asking.query asking.limit (Query.evaluate index tree) 0)),
            disk, loaded :: askRecords index tree⟩

/-- Shows how a query is read. -/
def explain (disk : Disk) (query : Text) (depthLimit : Nat) : Outcome :=
  match readQuery depthLimit query with
  | .error failure => ⟨.error failure, disk, []⟩
  | .ok tree =>
      ⟨.ok (.explanation (.ofTree query tree)), disk, [Query.parseRecord tree]⟩

/-- Counts what a saved index holds. -/
def measure (disk : Disk) (path : Text) : Outcome :=
  match Storage.load disk path with
  | .error failure => ⟨.error failure, disk, []⟩
  | .ok index =>
      ⟨.ok (.size ⟨path, index.statistics⟩), disk, [Storage.loadRecord path index]⟩

/-- Carries out an action. -/
def run (disk : Disk) : Action → Outcome
  | .index building => build disk building
  | .query asking => ask disk asking
  | .explain query depthLimit => explain disk query depthLimit
  | .stats path => measure disk path

/-- What is printed of a report. The heading is for readers who asked for more
output. -/
def print (settings : Settings) (report : Report) : Text :=
  match settings.style with
  | .human =>
      let heading := if 1 < settings.verbosity then line [report.heading, "\n"] else []
      heading ++ line [report.render]
  | .json =>
      line [if settings.pretty then report.value.indented else report.value.compact]

end Concordance.Command
