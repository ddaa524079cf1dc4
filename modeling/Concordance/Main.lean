import Concordance.Command.Process
import Concordance.Disk.Layout

/-!
Contract: the program on a real machine.

Before an action is carried out, the files that it may look at are copied into a disk.
What may not be read or not be written is copied as that. There is no copy of a directory
that may not be listed: below a seed it ends the program, as it ends a crawl, though before
any seed is looked at. Afterwards the one file that the action may have changed is written
back.

Owns: the copying, the two output streams, the environment and the clock.

Does not own: any decision about what is read, written or printed.
-/

set_option autoImplicit false

namespace Concordance.Main

/-- The bytes of a path. -/
def written (path : String) : Bytes := Utf8.encode path.toList

/-- The path without links that a path of the machine leads to, if it leads to
anything. -/
def resolved? (path : String) : IO (Option String) := do
  let place := (← IO.currentDir) / path
  match ← (IO.FS.realPath place).toBaseIO with
  | .ok real => return if ← real.pathExists then some real.toString else none
  | .error _ => return none

/-- The beginnings of a path that end before a separator, from the shortest on, and the
path itself. -/
def beginnings (path : String) : List String :=
  let parts := path.splitOn "/"
  (List.range parts.length).map fun count => "/".intercalate (parts.take (count + 1))

/-- The target to lay for a link that leads nowhere. A link to itself leads on for
ever. -/
def brokenTarget (path : String) : IO String := do
  match ← ((← IO.currentDir) / path).metadata.toBaseIO with
  | .error (.noFileOrDirectory ..) => return "/missing"
  | _ => return path

mutual

/-- The disk with what stands at a path without links. Directories are copied with what
they hold if `deep` is set. -/
partial def copy (disk : Disk) (path : String) (deep : Bool) : IO Disk := do
  let place := (← IO.currentDir) / path
  match ← place.symlinkMetadata.toBaseIO with
  | .error _ => return disk
  | .ok found =>
      match found.type with
      | .symlink => fetch disk path false
      | .dir =>
          let mut copied := disk.lay (written path) (.directory [])
          if deep then
            for entry in ← place.readDir do
              copied ← copy copied (path ++ "/" ++ entry.fileName) true
          return copied
      | _ =>
          match ← (IO.FS.readBinFile place).toBaseIO with
          | .error _ => return disk.lay (written path) (.guarded none)
          | .ok content =>
              match ← (IO.FS.Handle.mk place .readWrite).toBaseIO with
              | .error _ => return disk.lay (written path) (.guarded (some content.toList))
              | .ok _ => return disk.lay (written path) (.file content.toList)

/-- The disk with the links on the way to an absolute path, and with what the path leads
to. -/
partial def fetch (disk : Disk) (path : String) (deep : Bool) : IO Disk := do
  let mut fetched := disk
  for beginning in (beginnings path).drop 1 do
    match ← ((← IO.currentDir) / beginning).symlinkMetadata.toBaseIO with
    | .ok found =>
        if found.type == .symlink then
          let target ← do
            match ← resolved? beginning with
            | some target => pure target
            | none => brokenTarget beginning
          fetched := fetched.lay (written beginning) (.link (written target))
    | .error _ => pure ()
  match ← resolved? path with
  | none => return fetched
  | some real =>
      if !deep && ((fetched.node? (fetched.namedPath (written real))).isSome) then
        return fetched
      else copy fetched real deep

end

/-- The absolute form of a path. -/
def absolute (path : String) : IO String :=
  return ((← IO.currentDir) / path).toString

/-- The disk with the files that the links of its markup files name. `known` are the
files that have been looked at. -/
partial def fetchLinked (disk : Disk) (known : List Disk.Path) : IO Disk := do
  let fresh := disk.files.filter fun path => Crawl.isMarkup path && !known.contains path
  if fresh.isEmpty then return disk
  let mut fetched := disk
  for path in fresh do
    let content := (disk.contentAt path).toOption.getD []
    for link in (Html.content (Utf8.decodeLossy content)).links do
      match Url.resolve? (some (Url.ofNames path)) link with
      | none => pure ()
      | some segments =>
          let target := String.ofList (Utf8.decodeLossy (Url.filePath segments))
          fetched ← fetch fetched target false
  fetchLinked fetched (known ++ fresh)

/-- The disk with what a seed of a crawl leads to. -/
def fetchSeed (disk : Disk) (seed : Text) : IO Disk := do
  match Crawl.writtenPath seed with
  | .error _ => return disk
  | .ok path => fetch disk (← absolute (String.ofList (Utf8.decodeLossy path))) true

/-- The disk with the place at which a file is to be written. -/
def fetchOutput (disk : Disk) (path : String) : IO Disk := do
  let whole ← absolute path
  let above := "/".intercalate ((whole.splitOn "/").dropLast)
  fetch (← fetch disk above false) whole false

/-- The disk with the files that an action may look at. -/
def gather (disk : Disk) : Command.Action → IO Disk
  | .index building => do
      let planted ← building.paths.foldlM fetchSeed disk
      fetchOutput (← fetchLinked planted []) (String.ofList building.output)
  | .query asking => do fetch disk (← absolute (String.ofList asking.index)) false
  | .stats path => do fetch disk (← absolute (String.ofList path)) false
  | .explain _ _ => return disk

/-- What comes of an action when a directory below a seed may not be listed. -/
def unlisted (disk : Disk) : Command.Outcome := ⟨.error (.disk .notPermitted), disk, []⟩

/-- What comes of an action on a disk with the files that it may look at. -/
def perform (disk : Disk) (action : Command.Action) : IO Command.Outcome := do
  match ← (gather disk action).toBaseIO with
  | .ok gathered => return Command.run gathered action
  | .error _ => return unlisted disk

/-- Writes the file back that an action has changed. -/
def keep (action : Command.Action) (outcome : Command.Outcome) : IO Unit := do
  match action, outcome.result with
  | .index building, .ok _ =>
      let path := String.ofList building.output
      match outcome.disk.read (Utf8.encode building.output) with
      | .ok content => IO.FS.writeBinFile path (ByteArray.mk content.toArray)
      | .error _ => pure ()
  | _, _ => pure ()

/-- Writes what the program ends with. -/
def finish (ending : Command.Ending) : IO UInt32 := do
  (← IO.getStderr).putStr (String.ofList ending.errors)
  (← IO.getStdout).putStr (String.ofList ending.output)
  return UInt32.ofNat ending.code

/-- The variables of the environment that the program looks at. -/
def environment : IO Command.Environment :=
  return ⟨(← IO.getEnv "QUARRY_INDEX").map String.toList,
    (← IO.getEnv "RUST_LOG").map String.toList⟩

end Concordance.Main

open Concordance in
/-- The program. -/
def main (arguments : List String) : IO UInt32 := do
  let environment ← Main.environment
  match Command.read environment.index (arguments.map String.toList) with
  | .error refusal => Main.finish refusal.ending
  | .ok invocation =>
      let began ← IO.monoMsNow
      let place := Main.written (← IO.currentDir).toString
      let outcome ← Main.perform (Disk.blank place) invocation.action
      Main.keep invocation.action outcome
      let ended ← IO.monoMsNow
      Main.finish (outcome.ending environment invocation.settings (ended - began))
