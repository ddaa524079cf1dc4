import Concordance.Disk.Basic

/-!
Contract: laying out a disk.

Owns: the disk with one empty working directory, and putting nodes at written paths
whether or not the directories on the way exist.

Does not own: writing while the program runs (`Concordance.Disk.Basic`).
-/

set_option autoImplicit false

namespace Concordance.Disk

/-- The path a written path names when no link is followed. -/
def namedPath (disk : Disk) (bytes : Bytes) : Path :=
  let route := Route.ofBytes bytes
  route.steps.foldl
    (fun path step =>
      match step with
      | .here => path
      | .up => path.dropLast
      | .down name => path ++ [name])
    (route.start disk.current)

/-- The disk with a node at a written path. A directory that exists is kept. -/
def lay (disk : Disk) (bytes : Bytes) (node : Node) : Disk :=
  let path := disk.namedPath bytes
  if node.isDirectory && disk.isDirectory path then disk else disk.put path node

/-- The disk that holds nothing but its working directory. -/
def blank (current : Bytes) : Disk :=
  let disk : Disk := ⟨[], []⟩
  { disk.lay current (.directory []) with current := disk.namedPath current }

end Concordance.Disk
