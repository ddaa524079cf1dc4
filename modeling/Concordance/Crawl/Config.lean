import Concordance.Text.Basic

/-!
Contract: settings of a crawl.

Owns: the settings and their initial values.

Does not own: the command line (`Concordance.Command.Arguments`).
-/

set_option autoImplicit false

namespace Concordance.Crawl

/-- Settings of a crawl. `limit` bounds the number of documents that are indexed.
`extensions` are the lower-case extensions of the files that are picked up from
directories. -/
structure Config where
  limit : Option Nat
  followLinks : Bool
  extensions : List Text
  stripMarkup : Bool
deriving DecidableEq, Repr

/-- The extensions that are picked up where none are asked for. -/
def initialExtensions : List Text := ["html", "htm", "txt", "md"]

/-- The settings where none are asked for. -/
def Config.initial : Config := ⟨none, true, initialExtensions, true⟩

end Concordance.Crawl
