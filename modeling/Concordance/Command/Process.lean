import Concordance.Command.LogFilter
import Concordance.Command.Reading
import Concordance.Command.Run

/-!
Contract: the program from its command line to its end.

Owns:
- what is written to the two output streams, and the code that the program ends with;
- what a refused command line is answered with.

Does not own: the streams themselves (`Concordance.Main`).
-/

set_option autoImplicit false

namespace Concordance.Command

/-- The variables of the environment that the program looks at: the file that keeps the
index, and the filter of the journal. -/
structure Environment where
  index : Option Text
  log : Option Text
deriving DecidableEq, Repr

/-- How the program ends: its code, and what it has written. -/
structure Ending where
  code : Nat
  output : Text
  errors : Text
deriving DecidableEq, Repr

/-- The actions and options of the program. -/
def usage : Text :=
  Text.concat
    [line ["Usage: ", programName, " [OPTIONS] <COMMAND>"],
      "\n",
      line ["Commands:"],
      line ["  index <PATHS>...  Crawl documents and save an index"],
      line ["  query <QUERY>     Run a query against an index"],
      line ["  explain <QUERY>   Show how a query is read"],
      line ["  stats             Show index statistics"],
      line ["  help [COMMAND]    Show this text"],
      "\n",
      line ["Options:"],
      line ["  -v, --verbose          Tell more; may be repeated"],
      line ["  -q, --quiet            Tell failures only"],
      line ["  -f, --format <FORMAT>  human or json"],
      line ["      --pretty           Indent JSON"],
      line ["  -h, --help             Show this text"],
      line ["  -V, --version          Show the version"],
      "\n",
      line ["Options of index:"],
      line ["  -o, --output <OUTPUT>       Where to write the index"],
      line ["      --storage <STORAGE>     binary or json"],
      line ["      --no-follow             Do not follow links"],
      line ["      --keep-markup           Index HTML files as they are"],
      line ["      --max-documents <N>     Stop after this many documents"],
      line ["      --ext <EXTENSIONS>      Extensions to pick up, with commas"],
      "\n",
      line ["Options of query, explain and stats:"],
      line ["  -i, --index <INDEX>     Index file (query, stats)"],
      line ["  -l, --limit <N>         Documents to print (query)"],
      line ["      --max-depth <N>     Nesting depth (query, explain)"]]

/-- What a refused command line is answered with. -/
def Refusal.ending : Refusal → Ending
  | .help => ⟨0, usage, []⟩
  | .version => ⟨0, line [programName, " ", programVersion], []⟩
  | .invalid => ⟨2, [], line ["error: invalid command line"] ++ "\n".toList ++ usage⟩

/-- The filter of the journal, and the warnings about how it was written. -/
def filterOf (environment : Environment) (settings : Settings) : LogFilter × List Text :=
  let filter := LogFilter.ofVerbosity settings.verbosity
  match environment.log with
  | none => (filter, [])
  | some written => filter.refine written

/-- The lines of the journal that are shown. -/
def journal (environment : Environment) (settings : Settings)
    (records : List Journal.Record) : Text :=
  let filter := filterOf environment settings
  let shown := records.filter filter.1.admits
  Text.concat
    ((filter.2 ++ shown.map Journal.Record.render).map fun text => line [text])

/-- How the program ends after an action that took `duration` milliseconds. -/
def Outcome.ending (environment : Environment) (settings : Settings)
    (outcome : Outcome) (duration : Nat) : Ending :=
  let told := journal environment settings outcome.records
  match outcome.result with
  | .ok report => ⟨0, print settings (report.lasting duration), told⟩
  | .error failure => ⟨1, [], told ++ line ["Error: ", failure.render]⟩

/-- The end of the program and the disk it leaves. -/
def process (environment : Environment) (disk : Disk) (arguments : List Text) :
    Ending × Disk :=
  match read environment.index arguments with
  | .error refusal => (refusal.ending, disk)
  | .ok invocation =>
      let outcome := run disk invocation.action
      (outcome.ending environment invocation.settings 0, outcome.disk)

end Concordance.Command
