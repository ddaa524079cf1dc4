import Concordance.Crawl.Crawler
import Concordance.Index.DocumentSet
import Concordance.Index.Statistics
import Concordance.Json.Value
import Concordance.Query.Tree

/-!
Contract: what the commands answer.

Owns:
- the reports of building an index, of a query, of an explanation and of the size of
  an index;
- their written form for readers, and as JSON values.

Does not own: how a report comes about (`Concordance.Command.Run`).
-/

set_option autoImplicit false

namespace Concordance.Command

/-- The text with a line end after it. -/
def line (parts : List Text) : Text := Text.concat parts ++ ['\n']

/-- The size of an index as a JSON object. -/
def statisticsValue (statistics : Index.Statistics) : Json.Value :=
  .object
    [("doc_count", .number statistics.documents),
      ("term_count", .number statistics.terms),
      ("posting_count", .number statistics.postings),
      ("position_count", .number statistics.positions)]

/-! ## Building an index -/

/-- A built index: the file that keeps it, the report of the crawl, the size of the
index, and the time in milliseconds. -/
structure Construction where
  path : Text
  crawl : Crawl.Report
  statistics : Index.Statistics
  duration : Nat
deriving DecidableEq, Repr

namespace Construction

/-- Written form for readers. -/
def render (construction : Construction) : Text :=
  Text.concat
    [line ["Index written to ", construction.path],
      line ["Documents indexed: ", Text.decimal construction.crawl.indexed],
      line ["Documents skipped: ", Text.decimal construction.crawl.failed],
      line ["Words indexed:     ", Text.decimal construction.crawl.words],
      line ["Distinct words:    ", Text.decimal construction.statistics.terms],
      "Time:              ", Text.decimal construction.duration, "ms"]

/-- The construction as a JSON object. -/
def value (construction : Construction) : Json.Value :=
  .object
    [("path", .text construction.path),
      ("report", .object
        [("documents_indexed", .number construction.crawl.indexed),
          ("documents_failed", .number construction.crawl.failed),
          ("words_indexed", .number construction.crawl.words),
          ("links_followed", .number construction.crawl.links)]),
      ("stats", statisticsValue construction.statistics),
      ("duration_ms", .number construction.duration)]

end Construction

/-! ## Queries -/

/-- The first documents that match a query, the number of all that match, and the time
in milliseconds. -/
structure Page where
  query : Text
  documents : List Text
  total : Nat
  duration : Nat
deriving DecidableEq, Repr

namespace Page

/-- The page with at most `limit` of the matching documents. -/
def ofMatches (query : Text) (limit : Option Nat) (matching : DocumentSet)
    (duration : Nat) : Page where
  query := query
  documents :=
    match limit with
    | none => matching.toList
    | some limit => matching.toList.take limit
  total := matching.size
  duration := duration

/-- Number of matching documents that are not on the page. -/
def hidden (page : Page) : Nat := page.total - page.documents.length

/-- The line that counts the documents that are not on the page, if there are any. -/
def renderHidden (page : Page) : Text :=
  if page.hidden = 0 then [] else line ["... ", Text.decimal page.hidden, " more"]

/-- Written form for readers: a document a line, and the counts. -/
def render (page : Page) : Text :=
  Text.concat
    [Text.concat (page.documents.map fun document => line [document]),
      page.renderHidden,
      Text.decimal page.total, " documents matched in ",
      Text.decimal page.duration, "ms"]

/-- The page as a JSON object. -/
def value (page : Page) : Json.Value :=
  .object
    [("query", .text page.query),
      ("documents", .list (page.documents.map .text)),
      ("total_hits", .number page.total),
      ("duration_ms", .number page.duration)]

end Page

/-! ## Explanations -/

/-- One node of an explained query: how deep it stands, what it asks for, and the part
of the query that it was read from. -/
structure Step where
  level : Nat
  description : Text
  span : Query.Span
  source : Text
deriving DecidableEq, Repr

namespace Step

/-- What a literal asks for. -/
def describeLiteral (content : Query.Literal) : Text :=
  let words := Text.joined " " content.words
  if content.phrase then Text.concat ["PHRASE ", words]
  else if content.words.length = 1 then Text.concat ["WORD ", words]
  else Text.concat ["ALL OF ", words]

/-- What a connective asks for. -/
def describeConnective : Query.Connective → Text
  | .and => "AND"
  | .or => "OR"

/-- What the topmost node of a tree asks for. -/
def describe (tree : Query.Tree) : Text :=
  let asked :=
    match tree with
    | .literal _ content => describeLiteral content
    | .binary _ connective _ _ => describeConnective connective
  if tree.mark.negated then Text.concat ["NOT ", asked] else asked

/-- The step for a node of the tree of a query. -/
def ofNode (query : Text) (node : Nat × Query.Tree) : Step where
  level := node.1
  description := describe node.2
  span := node.2.mark.span
  source := node.2.mark.span.slice query

/-- Written form for readers, indented by two blanks a level. -/
def render (step : Step) : Text :=
  line
    [List.replicate (2 * step.level) ' ', step.description, " [", step.span.render,
      "] ", step.source]

/-- The step as a JSON object. -/
def value (step : Step) : Json.Value :=
  .object
    [("depth", .number step.level),
      ("description", .text step.description),
      ("span", .object [("start", .number step.span.start),
        ("end", .number step.span.stop)]),
      ("text", .text step.source)]

end Step

/-- An explained query: its canonical text and its nodes, a node before the nodes
below it. -/
structure Explanation where
  query : Text
  canonical : Text
  steps : List Step
deriving DecidableEq, Repr

namespace Explanation

/-- The explanation of a query that was read as a tree. -/
def ofTree (query : Text) (tree : Query.Tree) : Explanation :=
  ⟨query, tree.render, tree.nodes.map (Step.ofNode query)⟩

/-- Written form for readers. -/
def render (explanation : Explanation) : Text :=
  line [explanation.canonical] ++ Text.concat (explanation.steps.map Step.render)

/-- The explanation as a JSON object. -/
def value (explanation : Explanation) : Json.Value :=
  .object
    [("query", .text explanation.query),
      ("canonical", .text explanation.canonical),
      ("nodes", .list (explanation.steps.map Step.value))]

end Explanation

/-! ## Sizes -/

/-- The size of the index in a file. -/
structure Size where
  path : Text
  statistics : Index.Statistics
deriving DecidableEq, Repr

namespace Size

/-- Written form for readers. -/
def render (size : Size) : Text :=
  Text.concat
    [line ["Index Statistics: ", size.path],
      line ["Documents:       ", Text.decimal size.statistics.documents],
      line ["Distinct words:  ", Text.decimal size.statistics.terms],
      line ["Postings:        ", Text.decimal size.statistics.postings],
      "Word positions:  ", Text.decimal size.statistics.positions]

/-- The size as a JSON object. -/
def value (size : Size) : Json.Value :=
  .object [("path", .text size.path), ("stats", statisticsValue size.statistics)]

end Size

/-! ## Reports -/

/-- What a command answers. -/
inductive Report where
  | construction (construction : Construction)
  | page (page : Page)
  | explanation (explanation : Explanation)
  | size (size : Size)
deriving DecidableEq, Repr

namespace Report

/-- The heading of a report, which talkative commands show. -/
def heading : Report → Text
  | .construction _ => "Index created successfully"
  | .page _ => "Query results"
  | .explanation _ => "Query structure"
  | .size _ => "Index statistics"

/-- Written form for readers. -/
def render : Report → Text
  | .construction made => made.render
  | .page found => found.render
  | .explanation given => given.render
  | .size counted => counted.render

/-- The report as a JSON object. -/
def value : Report → Json.Value
  | .construction made => made.value
  | .page found => found.value
  | .explanation given => given.value
  | .size counted => counted.value

/-- The report with the time that the command took, where it tells that. -/
def lasting (duration : Nat) : Report → Report
  | .construction made => .construction { made with duration }
  | .page found => .page { found with duration }
  | .explanation given => .explanation given
  | .size counted => .size counted

end Report

end Concordance.Command
