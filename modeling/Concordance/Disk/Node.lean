import Concordance.Text.Basic

/-!
Contract: trees of files.

A file may be out of reach for reading or for writing. A file that may be written may also
be read, and every directory may be listed, entered and added to.

Owns:
- files, symbolic links and directories;
- the node at a path, and the tree with another node there.

Does not own: following links (`Concordance.Disk.Basic`).
-/

set_option autoImplicit false

namespace Concordance.Disk

/-- The name of a directory entry. -/
abbrev Name := Bytes

/-- The names that lead from the topmost directory to a node. -/
abbrev Path := List Name

/-- A file with its content, a file that may not be written, with its content if it may be
read, a symbolic link with the text of its target, or a directory. -/
inductive Node where
  | file (content : Bytes)
  | guarded (content : Option Bytes)
  | link (target : Bytes)
  | directory (entries : List (Name × Node))

/-- The entries of a directory. -/
abbrev Entries := List (Name × Node)

namespace Node

def isFile : Node → Bool
  | file _ => true
  | guarded _ => true
  | _ => false

def isDirectory : Node → Bool
  | directory _ => true
  | _ => false

/-- The node that a path leads to. Links are not followed. -/
def at? : Path → Node → Option Node
  | [], node => some node
  | name :: rest, .directory entries => (entries.lookup name).bind (at? rest)
  | _ :: _, _ => none

end Node

/-- The entries with the one of that name changed, or added if there is none. -/
def Entries.change (name : Name) (change : Option Node → Node) : Entries → Entries
  | [] => [(name, change none)]
  | entry :: others =>
      if entry.1 = name then (name, change (some entry.2)) :: others
      else entry :: Entries.change name change others

/-- The tree with `node` at a path. Directories on the way that are missing are
made; where a file or a link is in the way, nothing changes. -/
def Node.place (node : Node) : Path → Node → Node
  | [], _ => node
  | name :: rest, .directory entries =>
      .directory (Entries.change name
        (fun child => place node rest (child.getD (.directory []))) entries)
  | _ :: _, other => other

mutual

/-- Number of files, links and directories of a tree. -/
def Node.size : Node → Nat
  | .file _ => 1
  | .guarded _ => 1
  | .link _ => 1
  | .directory entries => 1 + entriesSize entries

/-- Number of files, links and directories below a directory. -/
def entriesSize : Entries → Nat
  | [] => 0
  | entry :: others => entry.2.size + entriesSize others

end

end Concordance.Disk
