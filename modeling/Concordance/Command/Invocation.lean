import Concordance.Crawl.Config
import Concordance.Query.Parser
import Concordance.Storage.Format

/-!
Contract: what a user asks the program to do.

Owns:
- the actions with their settings, and the settings common to all;
- what stands in where a setting is not given;
- the ways in which a command line is refused.

Does not own: how a command line is written (`Concordance.Command.Reading`).
-/

set_option autoImplicit false

namespace Concordance.Command

/-- Name of the program. -/
def programName : Text := "quarry"

/-- Version of the program. -/
def programVersion : Text := "0.1.0"

/-- The file that keeps the index where no other is named. -/
def defaultIndexPath : Text := "index.db"

/-- The ways in which reports are written. -/
inductive Style where
  | human
  | json
deriving DecidableEq, Repr

/-- Settings of every action. `talk` counts how often more output was asked for. -/
structure Settings where
  talk : Nat
  quiet : Bool
  style : Style
  pretty : Bool
deriving DecidableEq, Repr

/-- The count of requests for more output ends here. -/
def talkLimit : Nat := 255

/-- How much the program tells: nothing beyond reports and failures at 0, warnings from
1. The level is a byte; the count beyond the highest level wraps to 0. -/
def Settings.verbosity (settings : Settings) : Nat :=
  if settings.quiet then 0 else (settings.talk + 1) % (talkLimit + 1)

/-- Settings for building an index. -/
structure Building where
  paths : List Text
  output : Text
  storage : Storage.Format
  noFollow : Bool
  keepMarkup : Bool
  limit : Option Nat
  extensions : List Text
deriving DecidableEq, Repr

/-- Settings for a query. -/
structure Asking where
  query : Text
  index : Text
  limit : Option Nat
  depthLimit : Nat
deriving DecidableEq, Repr

/-- The actions of the program. -/
inductive Action where
  | index (building : Building)
  | query (asking : Asking)
  | explain (query : Text) (depthLimit : Nat)
  | stats (index : Text)
deriving DecidableEq, Repr

/-- What a user asks for. -/
structure Invocation where
  settings : Settings
  action : Action
deriving DecidableEq, Repr

/-- Why a command line asks for no action. -/
inductive Refusal where
  | help
  | version
  | invalid
deriving DecidableEq, Repr

/-- The settings of the crawl that builds an index. Extensions are asked for with or
without their point and in any letter case. -/
def Building.crawl (building : Building) : Crawl.Config where
  limit := building.limit
  followLinks := !building.noFollow
  extensions :=
    if building.extensions.isEmpty then Crawl.initialExtensions
    else
      building.extensions.map fun extension =>
        Text.lowerAscii (extension.dropWhile (· = '.'))
  stripMarkup := !building.keepMarkup

end Concordance.Command
