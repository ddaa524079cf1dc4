import Concordance.Crawl.Config
import Concordance.Disk.Basic
import Concordance.Journal

/-!
Contract: picking up the files below a directory.

Entries are looked at in the order of their names. Directories are entered, links to
directories are not. Anything else is picked up if its own name has one of the
extensions asked for. It may turn out later that a file may not be read, but no
directory is there that may not be listed (`Concordance.Disk.Node`).

Owns: what is found below a directory, in order.

Does not own: queueing it (`Concordance.Crawl.Crawler`).
-/

set_option autoImplicit false

namespace Concordance.Crawl

open Concordance.Disk (Entries Name Node Path)
open Concordance.Journal (Record)

/-- What is found in a directory: a file to index, or a link to a directory, which is
passed over. -/
inductive Finding where
  | file (path : Path)
  | passedOver (path : Path)
deriving DecidableEq, Repr

/-- Whether the extension of a file is asked for. -/
def Config.wants (config : Config) (path : Path) : Bool :=
  match Disk.Path.extensionText? path with
  | some extension => config.extensions.contains extension
  | none => false

/-- What is found at a link: the file it leads to, or the link itself if it leads
nowhere. -/
def linkFinding? (disk : Disk) (config : Config) (path : Path) : Option Finding :=
  match disk.locate (Disk.Path.bytes path) with
  | .ok target =>
      if disk.isDirectory target then some (.passedOver path)
      else if config.wants path then some (.file target) else none
  | .error _ => if config.wants path then some (.file path) else none

/-- The findings of entries in the order of their names. -/
def inOrder (found : List (Name × List Finding)) : List Finding :=
  (found.mergeSort fun left right => decide (left.1 ≤ right.1)).flatMap (·.2)

mutual

/-- The findings at a node with the given path. -/
def nodeFindings (disk : Disk) (config : Config) (path : Path) : Node → List Finding
  | .file _ | .guarded _ => if config.wants path then [.file path] else []
  | .link _ => (linkFinding? disk config path).toList
  | .directory entries => inOrder (entryFindings disk config path entries)

/-- The findings at every entry of the directory with the given path. -/
def entryFindings (disk : Disk) (config : Config) (path : Path) :
    Entries → List (Name × List Finding)
  | [] => []
  | entry :: others =>
      (entry.1, nodeFindings disk config (path ++ [entry.1]) entry.2)
        :: entryFindings disk config path others

end

/-- What is found below the directory at a path. -/
def findings (disk : Disk) (config : Config) (path : Path) : List Finding :=
  match disk.node? path with
  | some (.directory entries) => inOrder (entryFindings disk config path entries)
  | _ => []

/-- The file to index, if the finding is one. -/
def Finding.file? : Finding → Option Path
  | file path => some path
  | passedOver _ => none

/-- The record of a link that is passed over. -/
def Finding.record? : Finding → Option Record
  | file _ => none
  | passedOver path =>
      some ⟨.debug, .crawling,
        Text.concat ["Not following symlinked directory ", Disk.Path.render path]⟩

end Concordance.Crawl
