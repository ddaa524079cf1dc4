import Concordance.Text.Basic

/-!
Contract: what the program tells about its work while it runs.

Owns:
- the levels of importance, the topics and the records;
- the written form of a record.

Does not own: which records are shown (`Concordance.Command.LogFilter`).
-/

set_option autoImplicit false

namespace Concordance.Journal

/-- Importance of a record, from the most to the least. -/
inductive Level where
  | error
  | warn
  | info
  | debug
  | trace
deriving DecidableEq, Repr

namespace Level

/-- Rank of a level; a higher rank is less important. -/
def rank : Level → Nat
  | error => 1
  | warn => 2
  | info => 3
  | debug => 4
  | trace => 5

/-- Name of a level as records show it. -/
def name : Level → Text
  | error => "ERROR"
  | warn => "WARN"
  | info => "INFO"
  | debug => "DEBUG"
  | trace => "TRACE"

end Level

/-- The part of the work that a record is about. -/
inductive Topic where
  | indexing
  | storage
  | parsing
  | evaluation
  | search
  | crawling
  | command
deriving DecidableEq, Repr

/-- The name by which log filters select a topic. -/
def Topic.path : Topic → Text
  | .indexing => "quarry::index::inverted"
  | .storage => "quarry::index::storage"
  | .parsing => "quarry::query::parser"
  | .evaluation => "quarry::query::evaluator"
  | .search => "quarry::query::engine"
  | .crawling => "quarry::crawler"
  | .command => "quarry::cli::commands"

/-- One line of the journal. -/
structure Record where
  level : Level
  topic : Topic
  message : Text
deriving DecidableEq, Repr

/-- Written form of a record. -/
def Record.render (record : Record) : Text :=
  Text.concat ["[", record.level.name, "] ", record.message]

end Concordance.Journal
