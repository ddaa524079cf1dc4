import Concordance.Disk.Basic

/-!
Contract: the files of a disk.

Owns: the list of the paths of all files, which holds every path that leads to one.

Does not own: the order in which files are visited (`Concordance.Crawl.Directory`).
-/

set_option autoImplicit false

namespace Concordance.Disk

mutual

/-- The paths from a node to the files at and below it. -/
def Node.files : Node → List Path
  | .file _ => [[]]
  | .guarded _ => [[]]
  | .link _ => []
  | .directory entries => entriesFiles entries

/-- The paths to the files at and below the entries of a directory. -/
def entriesFiles : Entries → List Path
  | [] => []
  | entry :: others => entry.2.files.map (entry.1 :: ·) ++ entriesFiles others

end

/-- The paths of all files. -/
def files (disk : Disk) : List Path := disk.top.files

theorem mem_entriesFiles {entries : Entries} {name : Name} {node : Node} {path : Path}
    (entry : entries.lookup name = some node) (member : path ∈ node.files) :
    name :: path ∈ entriesFiles entries := by
  induction entries with
  | nil => cases entry
  | cons first others inductionHypothesis =>
      rw [entriesFiles, List.mem_append]
      rw [List.lookup_cons] at entry
      split at entry
      · rename_i same
        cases entry
        exact .inl (List.mem_map.mpr ⟨path, member, by rw [eq_of_beq same]⟩)
      · exact .inr (inductionHypothesis entry)

theorem mem_files_of_at? {path : Path} {node below : Node}
    (found : node.at? path = some below) (isFile : below.isFile = true) :
    path ∈ node.files := by
  induction path generalizing node with
  | nil =>
      cases found
      cases below with
      | file
      | guarded => simp [Node.files]
      | link => cases isFile
      | directory => cases isFile
  | cons name rest inductionHypothesis =>
      cases node with
      | file
      | guarded => cases found
      | link => cases found
      | directory entries =>
          obtain ⟨child, entry, reached⟩ := Option.bind_eq_some_iff.mp found
          rw [Node.files]
          exact mem_entriesFiles entry (inductionHypothesis reached)

/-- Every path that leads to a file is listed. -/
theorem mem_files_of_isFile {disk : Disk} {path : Path} (isFile : disk.isFile path = true) :
    path ∈ disk.files := by
  unfold Disk.isFile at isFile
  cases found : disk.node? path with
  | none => rw [found] at isFile; cases isFile
  | some node =>
      rw [found] at isFile
      exact mem_files_of_at? found isFile

end Concordance.Disk
