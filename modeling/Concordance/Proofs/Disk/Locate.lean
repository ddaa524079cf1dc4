import Concordance.Disk.Files
import Mathlib.Data.List.Basic

/-!
Contract: where written paths lead.

A walk follows every link it meets, so that it ends at a file or at a directory and
never at a link.

Owns:
- the kind of node at which a walk ends, and `locate` with it;
- the written paths that open a node, and what is read there;
- the paths of the files at and below a node.

Does not own: which written paths are followed (`Concordance.Crawl.Seed` and
`Concordance.Crawl.Link`).
-/

set_option autoImplicit false

namespace Concordance.Disk

/-! ## Steps -/

theorem eq_of_mem_intercalate {byte mark : UInt8} {parts : List Bytes}
    (empty : ∀ part ∈ parts, part = []) (member : byte ∈ [mark].intercalate parts) :
    byte = mark := by
  induction parts with
  | nil => cases member
  | cons part others inductionHypothesis =>
      cases others with
      | nil =>
          rw [List.intercalate_singleton, empty part List.mem_cons_self] at member
          cases member
      | cons next rest =>
          rw [List.intercalate_cons_cons, empty part List.mem_cons_self, List.nil_append,
            List.mem_append, List.mem_singleton] at member
          rcases member with here | later
          · exact here
          · exact inductionHypothesis (fun other within =>
              empty other (List.mem_cons_of_mem _ within)) later

/-- Only the empty path has no step. -/
theorem Route.allSteps_ne_nil {bytes : Bytes} (nonempty : bytes ≠ []) :
    (Route.ofBytes bytes).allSteps ≠ [] := by
  intro none
  unfold Route.allSteps at none
  split at none
  · simp at none
  · rename_i unslashed
    have empty : ∀ part ∈ Route.parts bytes, part = [] := by
      intro part member
      have skipped := List.filterMap_eq_nil_iff.mp none part member
      unfold Step.ofPart? at skipped
      split at skipped
      · assumption
      · split at skipped
        · cases skipped
        · split at skipped <;> cases skipped
    have whole : [separator].intercalate (Route.parts bytes) = bytes :=
      List.intercalate_splitOn separator
    have last : bytes.getLast nonempty = separator := by
      refine eq_of_mem_intercalate empty ?_
      rw [whole]
      exact List.getLast_mem nonempty
    refine unslashed (decide_eq_true ?_)
    rw [List.getLast?_eq_some_getLast nonempty, last]

/-! ## Walks -/

/-- Whether a path leads to a file or to a directory, and so not to a link. -/
def isSettled (disk : Disk) (path : Path) : Bool := disk.isFile path || disk.isDirectory path

theorem isSettled_of_isDirectory {disk : Disk} {path : Path}
    (isDirectory : disk.isDirectory path = true) : disk.isSettled path = true := by
  rw [isSettled, isDirectory, Bool.or_true]

theorem isSettled_of_node? {disk : Disk} {path : Path} {node : Node}
    (found : disk.node? path = some node) (notLink : ∀ target, node ≠ .link target) :
    disk.isSettled path = true := by
  unfold isSettled isFile isDirectory
  rw [found]
  cases node with
  | file content
  | guarded content => rfl
  | link target => exact absurd rfl (notLink target)
  | directory entries => rfl

theorem isDirectory_top (disk : Disk) : disk.isDirectory [] = true := rfl

/-- Above a directory there are directories. -/
theorem Node.isDirectory_at?_dropLast {path : Path} {node : Node} {entries : Entries}
    (found : node.at? path = some (.directory entries)) :
    ∃ above, node.at? path.dropLast = some (.directory above) := by
  induction path generalizing node with
  | nil => exact ⟨entries, found⟩
  | cons name rest inductionHypothesis =>
      cases node with
      | file
      | guarded => cases found
      | link => cases found
      | directory within =>
          cases rest with
          | nil => exact ⟨within, rfl⟩
          | cons next later =>
              obtain ⟨child, entry, below⟩ := Option.bind_eq_some_iff.mp found
              obtain ⟨above, reached⟩ := inductionHypothesis below
              exact ⟨above, Option.bind_eq_some_iff.mpr ⟨child, entry, reached⟩⟩

theorem exists_of_isDirectory {disk : Disk} {path : Path}
    (isDirectory : disk.isDirectory path = true) :
    ∃ entries, disk.node? path = some (.directory entries) := by
  unfold Disk.isDirectory at isDirectory
  cases found : disk.node? path with
  | none =>
      rw [found] at isDirectory
      cases isDirectory
  | some node =>
      rw [found] at isDirectory
      cases node with
      | file
      | guarded => cases isDirectory
      | link => cases isDirectory
      | directory entries => exact ⟨entries, rfl⟩

theorem isDirectory_dropLast {disk : Disk} {path : Path}
    (isDirectory : disk.isDirectory path = true) :
    disk.isDirectory path.dropLast = true := by
  obtain ⟨entries, found⟩ := exists_of_isDirectory isDirectory
  obtain ⟨above, reached⟩ := Node.isDirectory_at?_dropLast found
  unfold Disk.isDirectory node?
  rw [reached]
  rfl

theorem node?_of_entry {disk : Disk} {place : Path} {name : Name} {node : Node}
    (found : disk.entry place name = .ok node) :
    disk.node? (place ++ [name]) = some node := by
  unfold entry at found
  split at found
  · cases found
  · split at found
    · cases found
    · cases found
      assumption

theorem isSettled_of_walkBy {disk : Disk} {links : Nat}
    {follow : Path → List Step → Except Fault Arrival} {place : Path} {steps : List Step}
    {arrival : Arrival}
    (followed : ∀ {start : Path} {steps : List Step} {arrival : Arrival},
      disk.isSettled start = true → follow start steps = .ok arrival →
        disk.isSettled arrival.place = true)
    (arrived : disk.walkBy links follow place steps = .ok arrival)
    (settled : steps ≠ [] ∨ disk.isSettled place = true) :
    disk.isSettled arrival.place = true := by
  fun_induction walkBy disk links follow place steps with
  | case1 place =>
      cases arrived
      exact settled.resolve_left fun some => some rfl
  | case2 => cases arrived
  | case3 place rest here inductionHypothesis =>
      refine inductionHypothesis arrived (.inr (isSettled_of_isDirectory ?_))
      simpa using here
  | case4 place rest here inductionHypothesis =>
      refine inductionHypothesis arrived (.inr (isSettled_of_isDirectory ?_))
      exact isDirectory_dropLast (by simpa using here)
  | case5 => cases arrived
  | case6 place rest here name target found route =>
      refine followed (isSettled_of_isDirectory ?_) arrived
      unfold Route.start
      split
      · exact isDirectory_top disk
      · simpa using here
  | case7 place rest here name node notLink found inductionHypothesis =>
      exact inductionHypothesis arrived
        (.inr (isSettled_of_node? (node?_of_entry found) fun target => notLink target))

/-- A walk of at least one step, or from a file or a directory, ends at a file or at a
directory. -/
theorem isSettled_of_walk {disk : Disk} {links : Nat} {place : Path} {steps : List Step}
    {arrival : Arrival} (arrived : disk.walk links place steps = .ok arrival)
    (settled : steps ≠ [] ∨ disk.isSettled place = true) :
    disk.isSettled arrival.place = true := by
  induction links generalizing place steps arrival with
  | zero => exact isSettled_of_walkBy (fun _ failed => by cases failed) arrived settled
  | succ fewer inductionHypothesis =>
      exact isSettled_of_walkBy
        (fun start later => inductionHypothesis later (.inr start)) arrived settled

theorem locate_eq_ok_iff {disk : Disk} {bytes : Bytes} {place : Path} :
    disk.locate bytes = .ok place ↔ ∃ route links, checked bytes = .ok route ∧
      disk.walk linkLimit (route.start disk.current) route.allSteps = .ok ⟨place, links⟩ := by
  constructor
  · intro located
    unfold locate at located
    cases accepted : checked bytes with
    | error fault =>
        rw [accepted] at located
        cases located
    | ok route =>
        rw [accepted] at located
        dsimp only at located
        cases arrived : disk.walk linkLimit (route.start disk.current) route.allSteps with
        | error fault =>
            rw [arrived] at located
            cases located
        | ok arrival =>
            rw [arrived] at located
            cases located
            exact ⟨route, arrival.links, rfl, arrived⟩
  · rintro ⟨route, links, accepted, arrived⟩
    rw [locate, accepted]
    dsimp only
    rw [arrived, Except.map]

/-- Written paths lead to files and directories, never to links. -/
theorem isSettled_of_locate {disk : Disk} {bytes : Bytes} {path : Path}
    (located : disk.locate bytes = .ok path) : disk.isSettled path = true := by
  obtain ⟨route, links, accepted, arrived⟩ := locate_eq_ok_iff.mp located
  unfold checked at accepted
  split at accepted
  · cases accepted
  · split at accepted
    · cases accepted
    · rename_i nonempty
      cases accepted
      refine isSettled_of_walk arrived (.inl (Route.allSteps_ne_nil ?_))
      simpa using nonempty

/-- A written path that opens the node at a path, and that is not too long for it. -/
structure Opens (disk : Disk) (bytes : Bytes) (path : Path) : Prop where
  leads : disk.locate bytes = .ok path
  short : bytes.length ≤ pathLimit

/-- What is read is the content of the file that is opened. -/
theorem read_eq_ok_iff {disk : Disk} {bytes content : Bytes} :
    disk.read bytes = .ok content ↔
      ∃ path, disk.Opens bytes path ∧ disk.contentAt path = .ok content := by
  constructor
  · intro reads
    unfold read at reads
    cases accepted : checked bytes with
    | error fault =>
        rw [accepted] at reads
        cases reads
    | ok route =>
        rw [accepted] at reads
        dsimp only at reads
        split at reads
        · cases reads
        · rename_i short
          split at reads
          · cases reads
          · rename_i arrival arrived
            exact ⟨arrival.place, ⟨locate_eq_ok_iff.mpr ⟨route, arrival.links, accepted, arrived⟩,
              Nat.le_of_not_lt short⟩, reads⟩
  · rintro ⟨path, opens, found⟩
    obtain ⟨route, links, accepted, arrived⟩ := locate_eq_ok_iff.mp opens.leads
    rw [read, accepted]
    dsimp only
    rw [if_neg (Nat.not_lt_of_le opens.short), arrived]
    exact found

/-- What cannot be located cannot be read. -/
theorem read_of_locate {disk : Disk} {bytes : Bytes} {fault : Fault}
    (missing : disk.locate bytes = .error fault) :
    ∃ other, disk.read bytes = .error other := by
  cases reads : disk.read bytes with
  | error other => exact ⟨other, rfl⟩
  | ok content =>
      obtain ⟨path, opens, _⟩ := read_eq_ok_iff.mp reads
      cases missing.symm.trans opens.leads

/-! ## Files -/

/-- The files at and below a node on the way are files below the node at the top. -/
theorem mem_nodeFiles_of_at? {path rest : Path} {node below : Node}
    (found : node.at? path = some below) (member : rest ∈ below.files) :
    path ++ rest ∈ node.files := by
  induction path generalizing node with
  | nil =>
      cases found
      exact member
  | cons name others inductionHypothesis =>
      cases node with
      | file
      | guarded => cases found
      | link => cases found
      | directory entries =>
          obtain ⟨child, entry, reached⟩ := Option.bind_eq_some_iff.mp found
          rw [Node.files]
          exact mem_entriesFiles entry (inductionHypothesis reached)

end Concordance.Disk
