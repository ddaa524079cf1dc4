import Concordance.Journal
import Concordance.Pattern.Search

/-!
Contract: which records of the journal are shown.

A filter is written as a list of directives with commas between them, and perhaps a
slash with a pattern that occurs in the records that are shown. A directive is a level, the
beginning of a topic's path, or both with an equals sign between them.

Owns:
- the levels up to which records are shown;
- reading a written filter, and the warnings about what cannot be read;
- `admits`.

Does not own: the records (`Concordance.Journal`) and patterns
(`Concordance.Pattern.Search`).
-/

set_option autoImplicit false

namespace Concordance.Command

open Concordance.Journal (Level Record)

/-- The least important level that is shown, or none if nothing is. -/
abbrev Threshold := Option Level

namespace Threshold

/-- The threshold of a name in any letter case. -/
def ofName? (name : Text) : Option Threshold :=
  match String.ofList (Text.lowerAscii name) with
  | "off" => some none
  | "error" => some (some .error)
  | "warn" => some (some .warn)
  | "info" => some (some .info)
  | "debug" => some (some .debug)
  | "trace" => some (some .trace)
  | _ => none

/-- The threshold of a verbosity. -/
def ofVerbosity : Nat → Threshold
  | 0 => some .error
  | 1 => some .warn
  | 2 => some .info
  | _ => some .debug

/-- Whether a level is shown. -/
def admits (threshold : Threshold) (level : Level) : Bool :=
  match threshold with
  | none => false
  | some least => level.rank ≤ least.rank

end Threshold

/-- A threshold for the topics whose path begins with a text, or for all. -/
structure Directive where
  topic : Option Text
  threshold : Threshold
deriving DecidableEq, Repr

namespace Directive

/-- Length of the text that a directive asks for. -/
def length (directive : Directive) : Nat := (directive.topic.getD []).length

/-- Whether a directive is for a path. -/
def covers (directive : Directive) (path : Text) : Bool :=
  (directive.topic.getD []).isPrefixOf path

/-- Reads a directive, or says which text of it cannot be read. -/
def ofText (text : Text) : Except Text Directive :=
  match text.splitOn '=' with
  | [name] =>
      match Threshold.ofName? name with
      | some threshold => .ok ⟨none, threshold⟩
      | none => .ok ⟨some name, some .trace⟩
  | [topic, name] =>
      let name := Text.trimmed name
      if name.isEmpty then .ok ⟨some topic, some .trace⟩
      else
        match Threshold.ofName? name with
        | some threshold => .ok ⟨some topic, threshold⟩
        | none => .error name
  | _ => .error text

end Directive

/-- Directives, and perhaps a pattern that occurs in the records that are shown. -/
structure LogFilter where
  directives : List Directive
  content : Option Pattern.Expression
deriving DecidableEq, Repr

namespace LogFilter

/-- The filter with a further directive, which takes the place of an earlier one for
the same topics. -/
def insert (filter : LogFilter) (directive : Directive) : LogFilter :=
  let same (other : Directive) : Bool := other.topic = directive.topic
  if filter.directives.any same then
    { filter with
      directives :=
        filter.directives.map fun other => if same other then directive else other }
  else { filter with directives := filter.directives ++ [directive] }

/-- The filter of a verbosity. -/
def ofVerbosity (verbosity : Nat) : LogFilter :=
  ⟨[⟨none, .ofVerbosity verbosity⟩], none⟩

/-- The warning about a part of a written filter. -/
def warning (account : List Text) : Text :=
  Text.concat ("warning: ".toList :: account ++ [", ignoring it".toList])

/-- The account of a directive that cannot be read. -/
def invalidDirective (text : Text) : List Text :=
  ["invalid logging spec '", text, "'"]

/-- Adds written directives. -/
def addDirectives (filter : LogFilter) : List Text → LogFilter × List Text
  | [] => (filter, [])
  | text :: others =>
      if text.isEmpty then filter.addDirectives others
      else
        match Directive.ofText text with
        | .ok directive => (filter.insert directive).addDirectives others
        | .error unread =>
            let added := filter.addDirectives others
            (added.1, warning (invalidDirective unread) :: added.2)

/-- The filter changed by a written one, and the warnings about it. -/
def refine (filter : LogFilter) (text : Text) : LogFilter × List Text :=
  let directives (part : Text) : List Text := (part.splitOn ',').map Text.trimmed
  match text.splitOn '/' with
  | [part] => filter.addDirectives (directives part)
  | [part, content] =>
      let added := filter.addDirectives (directives part)
      match Pattern.Expression.ofText content with
      | .ok expression => ({ added.1 with content := some expression }, added.2)
      | .error account =>
          (added.1, added.2 ++ [warning ["invalid regex filter - ", account]])
  | _ => (filter, [warning (invalidDirective text ++ [" (too many '/'s)".toList])])

/-- Whether a record is shown: of the directives for its topic, the one with the
longest text counts, and the latest of several. -/
def admits (filter : LogFilter) (record : Record) : Bool :=
  let covering :=
    filter.directives.filter fun directive => directive.covers record.topic.path
  let ordered := covering.mergeSort fun left right => left.length ≤ right.length
  let threshold := (ordered.getLast?.map Directive.threshold).getD none
  threshold.admits record.level
    && filter.content.all fun pattern => pattern.occursIn record.message

end LogFilter

end Concordance.Command
