import Concordance.Disk.Basic
import Concordance.Query.Parser
import Concordance.Storage.Format

/-!
Contract: failures as users see them.

Owns:
- the kinds of failures;
- their wording, which begins with the part of the work that failed;
- the failures that refused queries, faulty files and faulty index files become.

Does not own: the causes themselves.
-/

set_option autoImplicit false

namespace Concordance

/-- A failure. Where a query is refused, `span` is the part it is refused for. -/
inductive Failure where
  | disk (fault : Disk.Fault)
  | parse (message : Text) (span : Option Query.Span)
  | index (message : Text)
  | storage (message : Text)
  | serialization (message : Text)
  | json (fault : Json.Fault)
  | crawl (message : Text)
  | other (message : Text)
deriving DecidableEq, Repr

namespace Failure

/-- Wording of the fault of a JSON document. -/
def jsonMessage : Json.Fault → Text
  | .malformed => "invalid syntax"
  | .mismatched => "unexpected kind of value"
  | .unfinished => "unexpected end of the document"

/-- Wording of a failure. -/
def render : Failure → Text
  | disk fault => Text.concat ["I/O error: ", fault.message]
  | parse message _ => Text.concat ["Parse error: ", message]
  | index message => Text.concat ["Index error: ", message]
  | storage message => Text.concat ["Storage error: ", message]
  | serialization message => Text.concat ["Serialization error: ", message]
  | json fault => Text.concat ["JSON error: ", jsonMessage fault]
  | crawl message => Text.concat ["Crawl error: ", message]
  | other message => Text.concat ["Error: ", message]

/-- Whether a query was refused. -/
def isParseError : Failure → Bool
  | parse _ _ => true
  | _ => false

/-- The part of the query that a failure concerns. -/
def span? : Failure → Option Query.Span
  | parse _ span => span
  | _ => none

/-- The failure of a refused query. -/
def ofParseError (error : Query.ParseError) : Failure :=
  parse error.problem.message error.span

/-- The failure of an index that is not valid. -/
def ofDefect (defect : Index.Defect) : Failure := index defect.message

/-- The failure of a file that holds no index. -/
def ofStorage : Storage.Fault → Failure
  | .unrecognized => storage "Unrecognized index file format"
  | .envelope fault => storage fault.message
  | .packed => serialization "Failed to deserialize index"
  | .document fault => json fault
  | .corrupt defect =>
      storage (Text.concat ["Corrupt index: ", (ofDefect defect).render])

end Failure

end Concordance
