import Concordance.Disk.Node
import Concordance.Text.Utf8

/-!
Contract: paths as they are written.

Owns:
- the steps of a written path;
- the written form of a path from the topmost directory.

Does not own: where a written path leads (`Concordance.Disk.Basic`).
-/

set_option autoImplicit false

namespace Concordance.Disk

/-- The byte between two names. -/
def separator : UInt8 := 0x2F

/-- One step of a written path: the directory itself, the one above it, or an entry. -/
inductive Step where
  | here
  | up
  | down (name : Name)
deriving DecidableEq, Repr

/-- The step that a part of a written path stands for. Nothing stands between two
separators in a row. -/
def Step.ofPart? (part : Bytes) : Option Step :=
  if part = [] then none
  else if part = [0x2E] then some .here
  else if part = [0x2E, 0x2E] then some .up
  else some (.down part)

/-- A written path: whether it begins at the topmost directory, its steps, and
whether a separator ends it. -/
structure Route where
  absolute : Bool
  steps : List Step
  slashed : Bool
deriving DecidableEq, Repr

namespace Route

/-- The parts between the separators. -/
def parts (bytes : Bytes) : List Bytes := bytes.splitOn separator

/-- The route of a written path. -/
def ofBytes (bytes : Bytes) : Route where
  absolute := bytes.head? = some separator
  steps := (parts bytes).filterMap Step.ofPart?
  slashed := bytes.getLast? = some separator

/-- The steps of a route, where a separator at the end asks for a directory. -/
def allSteps (route : Route) : List Step :=
  if route.slashed then route.steps ++ [.here] else route.steps

end Route

namespace Path

/-- Written form of a path from the topmost directory. -/
def bytes (path : Path) : Bytes :=
  if path.isEmpty then [separator] else path.flatMap fun name => separator :: name

/-- Written form of a path as a text. -/
def render (path : Path) : Text := Utf8.decodeLossy (bytes path)

/-- The part of the last name behind its last dot. A dot at the beginning of the
name does not count. -/
def extension? (path : Path) : Option Bytes :=
  path.getLast?.bind fun name =>
    let reversed := name.reverse
    let last := reversed.takeWhile (· ≠ 0x2E)
    let before := (reversed.dropWhile (· ≠ 0x2E)).drop 1
    if before.isEmpty then none else some last.reverse

/-- The extension as a text in ASCII lower case, if it is well formed. -/
def extensionText? (path : Path) : Option Text :=
  (extension? path).bind fun bytes => (Utf8.decode? bytes).map Text.lowerAscii

end Path

end Concordance.Disk
