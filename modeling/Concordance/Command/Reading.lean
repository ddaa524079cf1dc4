import Concordance.Command.Scope

/-!
Contract: reading a command line.

Arguments are read from left to right. The first that asks for help or cannot be read
ends the reading. A value in an argument of its own is looked at when the next argument
has been read; if that names an action, when the options of the action have been read.

Owns:
- the forms of an argument;
- what one side of the command line, before or after the name of the action, gives;
- `read`.

Does not own: the options (`Concordance.Command.Scope`).
-/

set_option autoImplicit false

namespace Concordance.Command

/-! ## Arguments -/

/-- The forms of an argument: an operand, one option with its long name and perhaps a
value, options with their letters, or the mark after which operands only follow. -/
inductive Argument where
  | operand (text : Text)
  | long (name : Text) (value : Option Text)
  | short (letters : Text)
  | mark
deriving DecidableEq, Repr

/-- The name and the value of a long option. -/
def splitLong (text : Text) : Argument :=
  match text.dropWhile (· ≠ '=') with
  | [] => .long text none
  | _ :: value => .long (text.takeWhile (· ≠ '=')) (some value)

/-- The form of a written argument. A lone hyphen is an operand. -/
def Argument.ofText : Text → Argument
  | ['-', '-'] => .mark
  | '-' :: '-' :: rest => splitLong rest
  | ['-'] => .operand ['-']
  | '-' :: letters => .short letters
  | text => .operand text

/-! ## What has been given -/

/-- What one side of a command line gives: options with their values, and operands, in
the order in which they were read. -/
structure Given where
  entries : List (Key × Text)
  operands : List Text
deriving DecidableEq, Repr

namespace Given

/-- Nothing given. -/
def nothing : Given := ⟨[], []⟩

/-- The values that an option was given, in order. -/
def values (given : Given) (key : Key) : List Text :=
  (given.entries.filter fun entry => entry.1 = key).map Prod.snd

/-- Whether an option was given. -/
def has (given : Given) (key : Key) : Bool := !(given.values key).isEmpty

/-- The value that an option was given. -/
def value? (given : Given) (key : Key) : Option Text := (given.values key).head?

/-- Gives an option a value. -/
def put (given : Given) (key : Key) (value : Text) : Except Refusal Given :=
  match key with
  | .help => .error .help
  | .version => .error .version
  | _ =>
      if (given.has key && !key.isRepeatable) || !key.accepts value then
        .error .invalid
      else .ok { given with entries := given.entries ++ [(key, value)] }

/-- Gives a further operand. -/
def putOperand (given : Given) (scope : Scope) (operand : Text) :
    Except Refusal Given :=
  if scope.acceptsOperand given.operands operand then
    .ok { given with operands := given.operands ++ [operand] }
  else .error .invalid

end Given

/-! ## Reading one side -/

/-- A value that has not been looked at yet, or an option whose value is to come. -/
inductive Pending where
  | nothing
  | value (key : Key) (value : Text)
  | option (key : Key)
deriving DecidableEq, Repr

/-- A side of a command line as far as it has been read. -/
structure Side where
  given : Given
  pending : Pending
deriving DecidableEq, Repr

namespace Side

/-- A side of which nothing has been read. -/
def start : Side := ⟨.nothing, .nothing⟩

/-- What a side gives when the value that was pending has been looked at. -/
def settle (side : Side) : Except Refusal Given :=
  match side.pending with
  | .nothing => .ok side.given
  | .value key value => side.given.put key value
  | .option _ => .error .invalid

end Side

/-- Reads options by their letters. What follows the letter of an option that takes a
value is the value, after an equals sign or directly. -/
def readLetters (scope : Scope) (given : Given) : Text → Except Refusal Side
  | [] => .ok ⟨given, .nothing⟩
  | letter :: rest =>
      match scope.ofShort? letter with
      | none => .error .invalid
      | some key =>
          if key.takesValue then
            match rest with
            | [] => .ok ⟨given, .option key⟩
            | '=' :: value => (given.put key value).map (⟨·, .nothing⟩)
            | value => (given.put key value).map (⟨·, .nothing⟩)
          else
            match given.put key [] with
            | .error refusal => .error refusal
            | .ok given => readLetters scope given rest

/-- Reads an option by its long name. -/
def readLong (scope : Scope) (given : Given) (name : Text) (value : Option Text) :
    Except Refusal Side :=
  match scope.ofLong? name with
  | none => .error .invalid
  | some key =>
      match value with
      | some value =>
          if key.takesValue then (given.put key value).map (⟨·, .nothing⟩)
          else .error .invalid
      | none =>
          if key.takesValue then .ok ⟨given, .option key⟩
          else (given.put key []).map (⟨·, .nothing⟩)

/-- Reads an argument that is no operand and no mark. -/
def readOption (scope : Scope) (side : Side) (argument : Argument) :
    Except Refusal Side :=
  match side.settle with
  | .error refusal => .error refusal
  | .ok given =>
      match argument with
      | .long name value => readLong scope given name value
      | .short letters => readLetters scope given letters
      | .operand _ | .mark => .error .invalid

/-- Reads the arguments after the name of an action. -/
def readSide (scope : Scope) (side : Side) : List Text → Except Refusal Given
  | [] => side.settle
  | text :: others =>
      match Argument.ofText text, side.pending with
      | .operand value, .option key => readSide scope ⟨side.given, .value key value⟩ others
      | .operand operand, _ =>
          match side.settle with
          | .error refusal => .error refusal
          | .ok given =>
              match given.putOperand scope operand with
              | .error refusal => .error refusal
              | .ok given => readSide scope ⟨given, .nothing⟩ others
      | .mark, _ =>
          match side.settle with
          | .error refusal => .error refusal
          | .ok given => others.foldlM (fun given => given.putOperand scope) given
      | argument, _ =>
          match readOption scope side argument with
          | .error refusal => .error refusal
          | .ok side => readSide scope side others

/-- What a command line gives before and after the name of the action. -/
structure Line where
  before : Given
  scope : Scope
  after : Given
deriving DecidableEq, Repr

/-- Reads what asking for help about actions names. -/
def readHelp : List Text → Refusal
  | [] => .help
  | [name] =>
      if name = "help".toList || (Scope.ofName? name).isSome then .help else .invalid
  | _ => .invalid

/-- Reads the arguments from `side` on, up to the name of an action, and those after
it. -/
def readLine (side : Side) : List Text → Except Refusal Line
  | [] => .error .invalid
  | text :: others =>
      match Argument.ofText text, side.pending with
      | .operand value, .option key => readLine ⟨side.given, .value key value⟩ others
      | .operand name, _ =>
          if name = "help".toList then .error (readHelp others)
          else
            match Scope.ofName? name with
            | none => .error .invalid
            | some scope =>
                match readSide scope .start others with
                | .error refusal => .error refusal
                | .ok after =>
                    match side.settle with
                    | .error refusal => .error refusal
                    | .ok before => .ok ⟨before, scope, after⟩
      | argument, _ =>
          match readOption .top side argument with
          | .error refusal => .error refusal
          | .ok side => readLine side others

/-! ## What was asked for -/

namespace Line

/-- Number of times an option was given after the name of the action, or before it if
never after it. -/
def count (line : Line) (key : Key) : Nat :=
  let after := (line.after.values key).length
  if after = 0 then (line.before.values key).length else after

/-- The settings of every action. What stands after the name of the action counts. -/
def settings (line : Line) : Settings where
  talk := min (line.count .verbose) talkLimit
  quiet := line.count .quiet ≠ 0
  style :=
    (((line.after.value? .format).or (line.before.value? .format)).bind
      Style.ofName?).getD .human
  pretty := line.count .pretty ≠ 0

end Line

namespace Given

/-- The file that keeps the index: the one an option names, or else the one the
environment names, or else the usual one. -/
def indexPath (given : Given) (key : Key) (environment : Option Text) :
    Except Refusal Text :=
  match given.value? key, environment with
  | some path, _ => .ok path
  | none, none => .ok defaultIndexPath
  | none, some path => if path.isEmpty then .error .invalid else .ok path

/-- The number that an option was given. -/
def number? (given : Given) (key : Key) : Option Nat :=
  (given.value? key).bind Command.number?

/-- The depth limit of queries. -/
def depthLimit (given : Given) : Nat :=
  (given.number? .maxDepth).getD Query.defaultDepthLimit

/-- The extensions asked for. One value lists several with commas between them. -/
def extensions (given : Given) : List Text :=
  (given.values .extensions).flatMap (List.splitOn ',')

/-- The storage format asked for. -/
def storage (given : Given) : Storage.Format :=
  ((given.value? .storage).bind storageOfName?).getD Storage.defaultFormat

/-- The settings for building an index. -/
def building (given : Given) (environment : Option Text) : Except Refusal Action :=
  (given.indexPath .output environment).map fun output =>
    .index
      { paths := given.operands
        output := output
        storage := given.storage
        noFollow := given.has .noFollow
        keepMarkup := given.has .keepMarkup
        limit := given.number? .maxDocuments
        extensions := given.extensions }

/-- The settings for a query. -/
def asking (given : Given) (query : Text) (environment : Option Text) :
    Except Refusal Action :=
  (given.indexPath .index environment).map fun index =>
    .query
      { query := query
        index := index
        limit := given.number? .limit
        depthLimit := given.depthLimit }

end Given

namespace Line

/-- The action asked for. -/
def action (line : Line) (environment : Option Text) : Except Refusal Action :=
  match line.scope, line.after.operands with
  | .index, _ :: _ => line.after.building environment
  | .query, query :: _ => line.after.asking query environment
  | .explain, query :: _ => .ok (.explain query line.after.depthLimit)
  | .stats, _ => (line.after.indexPath .index environment).map .stats
  | _, _ => .error .invalid

end Line

/-- Reads a command line. `environment` is the file that the environment names for the
index. -/
def read (environment : Option Text) (arguments : List Text) :
    Except Refusal Invocation :=
  match readLine .start arguments with
  | .error refusal => .error refusal
  | .ok line =>
      match line.action environment with
      | .error refusal => .error refusal
      | .ok action => .ok ⟨line.settings, action⟩

end Concordance.Command
