import Concordance.Command.Invocation
import Concordance.Text.Digit

/-!
Contract: the options of the program, and how they are spelled.

Owns:
- the options, their names, and whether they take a value;
- the values that an option takes;
- which options and operands belong to which action.

Does not own: the order in which a command line is read
(`Concordance.Command.Reading`).
-/

set_option autoImplicit false

namespace Concordance.Command

/-! ## Options -/

/-- The options of the program. -/
inductive Key where
  | verbose
  | quiet
  | format
  | pretty
  | help
  | version
  | output
  | storage
  | noFollow
  | keepMarkup
  | maxDocuments
  | extensions
  | index
  | limit
  | maxDepth
deriving DecidableEq, Repr

namespace Key

/-- The name that stands after two hyphens. -/
def long : Key → Text
  | verbose => "verbose"
  | quiet => "quiet"
  | format => "format"
  | pretty => "pretty"
  | help => "help"
  | version => "version"
  | output => "output"
  | storage => "storage"
  | noFollow => "no-follow"
  | keepMarkup => "keep-markup"
  | maxDocuments => "max-documents"
  | extensions => "ext"
  | index => "index"
  | limit => "limit"
  | maxDepth => "max-depth"

/-- The letter that may stand after one hyphen. -/
def short? : Key → Option Char
  | verbose => some 'v'
  | quiet => some 'q'
  | format => some 'f'
  | help => some 'h'
  | version => some 'V'
  | output => some 'o'
  | index => some 'i'
  | limit => some 'l'
  | _ => none

/-- Whether a value belongs to the option. -/
def takesValue : Key → Bool
  | format | output | storage | maxDocuments | extensions | index | limit | maxDepth =>
      true
  | verbose | quiet | pretty | help | version | noFollow | keepMarkup => false

/-- Whether the option may be given more than once. -/
def isRepeatable : Key → Bool
  | verbose | extensions => true
  | _ => false

end Key

/-! ## Values -/

/-- The number that digits stand for, if it fits into 64 bits. A plus sign may stand
before them. -/
def number? (written : Text) : Option Nat :=
  let digits :=
    match written with
    | '+' :: digits => digits
    | digits => digits
  if digits.isEmpty || !digits.all Char.isDigit then none
  else
    let number := Text.numberOf 10 digits
    if number < 0x10000000000000000 then some number else none

/-- The style of a name. -/
def Style.ofName? (name : Text) : Option Style :=
  if name = "human".toList then some .human
  else if name = "json".toList then some .json
  else none

/-- The storage format of a name. -/
def storageOfName? (name : Text) : Option Storage.Format :=
  if name = "binary".toList then some .binary
  else if name = "json".toList then some .json
  else none

/-- Whether an option takes a value. A flag has the empty one. -/
def Key.accepts (value : Text) : Key → Bool
  | format => (Style.ofName? value).isSome
  | storage => (storageOfName? value).isSome
  | output | index => !value.isEmpty
  | limit | maxDepth | maxDocuments => (number? value).isSome
  | extensions => true
  | verbose | quiet | pretty | help | version | noFollow | keepMarkup => value.isEmpty

/-! ## Scopes -/

/-- The part of a command line before the name of the action, or the part after the
name of one. -/
inductive Scope where
  | top
  | index
  | query
  | explain
  | stats
deriving DecidableEq, Repr

namespace Scope

/-- The options that may be given everywhere. -/
def sharedKeys : List Key := [.verbose, .quiet, .format, .pretty, .help]

/-- The options of a scope. -/
def keys : Scope → List Key
  | top => .version :: sharedKeys
  | index =>
      [.output, .storage, .noFollow, .keepMarkup, .maxDocuments, .extensions]
        ++ sharedKeys
  | query => [.index, .limit, .maxDepth] ++ sharedKeys
  | explain => .maxDepth :: sharedKeys
  | stats => .index :: sharedKeys

/-- The option of a scope with a long name. -/
def ofLong? (scope : Scope) (name : Text) : Option Key :=
  scope.keys.find? fun key => key.long = name

/-- The option of a scope with a letter. -/
def ofShort? (scope : Scope) (letter : Char) : Option Key :=
  scope.keys.find? fun key => key.short? = some letter

/-- The scope that the name of an action opens. -/
def ofName? (name : Text) : Option Scope :=
  if name = "index".toList then some index
  else if name = "query".toList then some query
  else if name = "explain".toList then some explain
  else if name = "stats".toList then some stats
  else none

/-- Whether a scope takes an operand after those it has already. The paths of an index
are not empty. -/
def acceptsOperand (scope : Scope) (earlier : List Text) (operand : Text) : Bool :=
  match scope with
  | index => !operand.isEmpty
  | query | explain => earlier.isEmpty
  | top | stats => false

end Scope

end Concordance.Command
