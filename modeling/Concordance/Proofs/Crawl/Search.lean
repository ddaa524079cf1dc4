import Concordance.Crawl.Wave
import Concordance.Index.Statistics
import Mathlib.Data.Finset.Card

/-!
Contract: breadth-first search, one document at a time.

A search is a crawl in plain data. It takes one path from the front of its queue, loads
the document there, puts the links that have not been seen at the end of the queue and
adds the chunks of text to the index. It knows nothing of waves.

Owns:
- searches, what a visit changes, and the run until the queue is empty or the limit is
  reached;
- the seeds of a search and the files of those in front of the first that leads nowhere;
- calls one after another;
- what a visit has in common from whatever queue it is made;
- the trail of a search, and what visits and runs do to it.

Does not own: why crawls give what searches give (`Concordance.Proofs.Crawl.Waves`).
-/

set_option autoImplicit false

namespace Concordance.Crawl

open Concordance.Disk (Path)

/-! ## New paths -/

/-- The paths that have not been seen, each once, in the order of their first mention. -/
def newPaths (seen : Finset Path) : List Path → List Path
  | [] => []
  | path :: others =>
      if path ∈ seen then newPaths seen others
      else path :: newPaths (insert path seen) others

theorem mem_newPaths {seen : Finset Path} {paths : List Path} {path : Path} :
    path ∈ newPaths seen paths ↔ path ∈ paths ∧ path ∉ seen := by
  induction paths generalizing seen with
  | nil => simp [newPaths]
  | cons first others inductionHypothesis =>
      rw [newPaths]
      by_cases known : first ∈ seen
      · rw [if_pos known, inductionHypothesis, List.mem_cons]
        constructor
        · rintro ⟨member, new⟩
          exact ⟨.inr member, new⟩
        · rintro ⟨rfl | member, new⟩
          · exact absurd known new
          · exact ⟨member, new⟩
      · rw [if_neg known, List.mem_cons, inductionHypothesis, List.mem_cons, Finset.mem_insert]
        by_cases same : path = first
        · simp [same, known]
        · simp [same]

theorem nodup_newPaths (seen : Finset Path) (paths : List Path) :
    (newPaths seen paths).Nodup := by
  induction paths generalizing seen with
  | nil => exact List.nodup_nil
  | cons first others inductionHypothesis =>
      rw [newPaths]
      split
      · exact inductionHypothesis seen
      · refine List.nodup_cons.mpr ⟨fun member => ?_, inductionHypothesis _⟩
        exact (mem_newPaths.mp member).2 (Finset.mem_insert_self first seen)

theorem newPaths_append (seen : Finset Path) (first second : List Path) :
    newPaths seen (first ++ second)
      = newPaths seen first ++ newPaths (seen ∪ first.toFinset) second := by
  induction first generalizing seen with
  | nil => simp [newPaths]
  | cons path others inductionHypothesis =>
      rw [List.cons_append, newPaths, newPaths, List.toFinset_cons, Finset.union_insert,
        ← Finset.insert_union]
      split
      · rename_i known
        rw [inductionHypothesis, Finset.insert_eq_of_mem known]
      · rw [inductionHypothesis, List.cons_append]

/-- Paths have been seen afterwards if they were seen before or are new. -/
theorem mem_union_toFinset_iff {seen : Finset Path} {paths : List Path} {path : Path} :
    path ∈ seen ∪ paths.toFinset ↔ path ∈ seen ∨ path ∈ newPaths seen paths := by
  rw [Finset.mem_union, List.mem_toFinset, mem_newPaths]
  tauto

/-! ## Visits -/

/-- A breadth-first search: the paths it has visited and those it will visit, both in
order, the paths it has seen, the index, and the counts. -/
structure Search where
  visited : List Path
  queue : List Path
  seen : Finset Path
  index : Index
  report : Report

namespace Search

/-- The search that has seen nothing and adds to an index. -/
def start (index : Index) : Search := ⟨[], [], ∅, index, ⟨0, 0, 0, 0⟩⟩

/-- The search with another queue. -/
def requeue (search : Search) (queue : List Path) : Search := { search with queue }

/-- The search with the paths that it has not seen at the end of its queue. -/
def discover (search : Search) (paths : List Path) : Search :=
  { search with
    queue := search.queue ++ newPaths search.seen paths
    seen := search.seen ∪ paths.toFinset }

end Search

/-- The index with the chunks of a document, which is in the index even if it has
none. -/
def addChunks (index : Index) (key : Text) (chunks : List Text) : Index :=
  chunks.foldl (fun index chunk => (index.addText key chunk).1) (index.addDocument key)

/-- Number of words in chunks of text. -/
def wordsIn (chunks : List Text) : Nat :=
  Index.total (chunks.map fun chunk => chunk.words.length)

namespace Search

/-- The search after the document at a path is loaded. What can be read is indexed once
its new links are queued; what cannot be read is counted. -/
def visit (disk : Disk) (config : Config) (search : Search) (path : Path) : Search :=
  match load disk config path with
  | .error _ =>
      { search with
        visited := search.visited ++ [path]
        report := { search.report with failed := search.report.failed + 1 } }
  | .ok document =>
      { search.discover document.links with
        visited := search.visited ++ [path]
        index := addChunks search.index (key path) document.chunks
        report :=
          { indexed := search.report.indexed + 1
            failed := search.report.failed
            words := search.report.words + wordsIn document.chunks
            links := search.report.links + (newPaths search.seen document.links).length } }

/-- What a visit puts at the end of the queue. -/
def found (disk : Disk) (config : Config) (search : Search) (path : Path) : List Path :=
  match load disk config path with
  | .error _ => []
  | .ok document => newPaths search.seen document.links

/-- A visit only adds to the queue, and nothing else depends on what is queued. -/
theorem visit_requeue (disk : Disk) (config : Config) (search : Search) (path : Path)
    (queue : List Path) :
    (search.requeue queue).visit disk config path
      = (search.visit disk config path).requeue
          (queue ++ search.found disk config path) := by
  unfold visit found
  cases load disk config path with
  | error => rw [List.append_nil]; rfl
  | ok document => rfl

/-- The paths that a search has visited and those it will visit, in order. -/
def trail (search : Search) : List Path := search.visited ++ search.queue

section Visit

variable (disk : Disk) (config : Config) (search : Search) (path : Path)

theorem visited_visit : (search.visit disk config path).visited = search.visited ++ [path] := by
  unfold visit
  cases load disk config path <;> rfl

theorem queue_visit :
    (search.visit disk config path).queue = search.queue ++ search.found disk config path := by
  unfold visit found
  cases load disk config path with
  | error failure => exact (List.append_nil _).symm
  | ok document => rfl

theorem links_visit :
    (search.visit disk config path).report.links
      = search.report.links + (search.found disk config path).length := by
  unfold visit found
  cases load disk config path <;> rfl

theorem mem_seen_visit (target : Path) :
    target ∈ (search.visit disk config path).seen ↔
      target ∈ search.seen ∨ target ∈ search.found disk config path := by
  unfold visit found
  cases load disk config path with
  | error failure => exact (or_iff_left List.not_mem_nil).symm
  | ok document => exact mem_union_toFinset_iff

theorem nodup_found : (search.found disk config path).Nodup := by
  unfold found
  cases load disk config path with
  | error failure => exact List.nodup_nil
  | ok document => exact nodup_newPaths _ _

end Visit

theorem notMem_seen_of_mem_found {disk : Disk} {config : Config} {search : Search}
    {path target : Path} (new : target ∈ search.found disk config path) :
    target ∉ search.seen := by
  unfold found at new
  cases loaded : load disk config path with
  | error failure =>
      rw [loaded] at new
      cases new
  | ok document =>
      rw [loaded] at new
      exact (mem_newPaths.mp new).2

/-- Visiting the front of the queue leaves the trail as it is, and what is found comes
behind it. -/
theorem trail_visit (disk : Disk) (config : Config) {search : Search} {path : Path}
    {others : List Path} (queue : search.queue = path :: others) :
    ((search.requeue others).visit disk config path).trail
      = search.trail ++ search.found disk config path := by
  rw [trail, visited_visit, queue_visit, trail, queue]
  simp [requeue, found]

theorem indexed_visit_le (disk : Disk) (config : Config) (search : Search) (path : Path) :
    (search.visit disk config path).report.indexed ≤ search.report.indexed + 1 := by
  unfold visit
  cases load disk config path with
  | error => exact Nat.le_succ _
  | ok document => exact Nat.le_refl _

/-! ## Runs -/

/-- At most so many visits are left: those in the queue, and one for every file that
has not been seen. -/
def remaining (disk : Disk) (search : Search) : Nat :=
  (disk.files.toFinset \ search.seen).card + search.queue.length

theorem remaining_discover_le {disk : Disk} (search : Search) {paths : List Path}
    (members : ∀ path ∈ paths, path ∈ disk.files) :
    (search.discover paths).remaining disk ≤ search.remaining disk := by
  -- What is discovered was among the files that had not been seen.
  have taken : (newPaths search.seen paths).toFinset
      ⊆ disk.files.toFinset \ search.seen := by
    intro path member
    obtain ⟨listed, new⟩ := mem_newPaths.mp (List.mem_toFinset.mp member)
    exact Finset.mem_sdiff.mpr ⟨List.mem_toFinset.mpr (members path listed), new⟩
  have left : disk.files.toFinset \ (search.seen ∪ paths.toFinset)
      ⊆ (disk.files.toFinset \ search.seen) \ (newPaths search.seen paths).toFinset := by
    intro path member
    simp only [Finset.mem_sdiff, Finset.mem_union, List.mem_toFinset, mem_newPaths] at member ⊢
    exact ⟨⟨member.1, fun seen => member.2 (.inl seen)⟩,
      fun new => member.2 (.inr new.1)⟩
  have fewer := Finset.card_le_card left
  have distinct := List.toFinset_card_of_nodup (nodup_newPaths search.seen paths)
  have bound := Finset.card_le_card taken
  rw [Finset.card_sdiff_of_subset taken, distinct] at fewer
  simp only [remaining, discover, List.length_append]
  omega

theorem remaining_visit_le (disk : Disk) (config : Config) (search : Search) (path : Path) :
    (search.visit disk config path).remaining disk ≤ search.remaining disk := by
  unfold visit
  cases loaded : load disk config path with
  | error => exact Nat.le_refl _
  | ok document =>
      exact search.remaining_discover_le fun link member =>
        mem_files_of_mem_links loaded member

/-- Whether no further document may be indexed. -/
def isFull (config : Config) (search : Search) : Bool :=
  config.limit.any fun limit => decide (limit ≤ search.report.indexed)

/-- Takes one path after another from the front of the queue and visits it, until the
limit is reached or the queue is empty. -/
def run (disk : Disk) (config : Config) (search : Search) : Search :=
  if search.isFull config then search
  else
    match _queued : search.queue with
    | [] => search
    | path :: others => run disk config ((search.requeue others).visit disk config path)
termination_by search.remaining disk
decreasing_by
  refine Nat.lt_of_le_of_lt (remaining_visit_le disk config _ path) ?_
  simp only [remaining, requeue, _queued, List.length_cons]
  omega

theorem run_of_isFull {disk : Disk} {config : Config} {search : Search}
    (full : search.isFull config = true) : search.run disk config = search := by
  rw [run, if_pos full]

theorem run_of_queue_eq_nil {disk : Disk} {config : Config} {search : Search}
    (empty : search.queue = []) : search.run disk config = search := by
  rw [run]
  split
  · rfl
  · split
    · rfl
    · rename_i queued
      cases empty.symm.trans queued

theorem run_of_queue_eq_cons {disk : Disk} {config : Config} {search : Search}
    {path : Path} {others : List Path} (room : search.isFull config = false)
    (queue : search.queue = path :: others) :
    search.run disk config
      = run disk config ((search.requeue others).visit disk config path) := by
  rw [run, if_neg (by rw [room]; decide)]
  split
  · rename_i queued
    cases queue.symm.trans queued
  · rename_i queued
    cases queue.symm.trans queued
    rfl

/-- What every visit keeps below the limit, a run keeps. -/
theorem run_keeps {disk : Disk} {config : Config} {motive : Search → Prop}
    (visit : ∀ (search : Search) (path : Path) (others : List Path),
      search.isFull config = false → search.queue = path :: others → motive search →
        motive ((search.requeue others).visit disk config path))
    (search : Search) (start : motive search) : motive (search.run disk config) := by
  fun_induction Search.run disk config search with
  | case1 search full => exact start
  | case2 search room empty => exact start
  | case3 search room path others queued inductionHypothesis =>
      exact inductionHypothesis
        (visit search path others (eq_false_of_ne_true room) queued start)

/-- Without a limit a run empties the queue. -/
theorem queue_run {disk : Disk} {config : Config} (unlimited : config.limit = none)
    (search : Search) : (search.run disk config).queue = [] := by
  fun_induction Search.run disk config search with
  | case1 search full =>
      rw [isFull, unlimited] at full
      cases full
  | case2 search room empty => exact empty
  | case3 search room path others queued inductionHypothesis => exact inductionHypothesis

end Search

/-! ## Calls -/

/-- The files that a seed stands for: those below it if it leads to a directory. -/
def seedFiles (disk : Disk) (config : Config) (seed : Text) : Except Failure (List Path) :=
  match seedPath disk seed with
  | .error failure => .error failure
  | .ok path =>
      .ok (if disk.isDirectory path then (findings disk config path).filterMap Finding.file?
        else [path])

/-- The files that seeds stand for, up to the first seed that leads nowhere. -/
def filesAhead (disk : Disk) (config : Config) : List Text → List Path
  | [] => []
  | seed :: others =>
      match seedFiles disk config seed with
      | .error _ => []
      | .ok files => files ++ filesAhead disk config others

namespace Search

/-- The search with the files of seeds in its queue, up to the first seed that leads
nowhere. -/
def plant (disk : Disk) (config : Config) (search : Search) :
    List Text → Search × Option Failure
  | [] => (search, none)
  | seed :: others =>
      match seedFiles disk config seed with
      | .error failure => (search, some failure)
      | .ok files => plant disk config (search.discover files) others

theorem discover_append (search : Search) (first second : List Path) :
    search.discover (first ++ second) = (search.discover first).discover second := by
  simp [discover, newPaths_append, List.append_assoc]

/-- Seeds queue the files of those among them that stand before the first failure. -/
theorem fst_plant {disk : Disk} {config : Config} (search : Search) (seeds : List Text) :
    (search.plant disk config seeds).1 = search.discover (filesAhead disk config seeds) := by
  induction seeds generalizing search with
  | nil => simp [plant, filesAhead, discover, newPaths]
  | cons seed others inductionHypothesis =>
      rw [plant, filesAhead]
      cases seedFiles disk config seed with
      | error failure => simp [discover, newPaths]
      | ok files =>
          dsimp only
          rw [inductionHypothesis, discover_append]

/-- A call: the seeds are queued, and unless one of them leads nowhere the search runs
to its end. Nothing is left in the queue from earlier calls. -/
def call (disk : Disk) (config : Config) (search : Search) (seeds : List Text) :
    Except Failure Report × Search :=
  let planted := (search.requeue []).plant disk config seeds
  match planted.2 with
  | some failure => (.error failure, planted.1)
  | none =>
      let ended := planted.1.run disk config
      (.ok ended.report, ended)

theorem call_of_plant {disk : Disk} {config : Config} {search planted : Search}
    {seeds : List Text}
    (led : (search.requeue []).plant disk config seeds = (planted, none)) :
    search.call disk config seeds
      = (.ok (planted.run disk config).report, planted.run disk config) := by
  unfold call
  rw [led]

/-- What each of several calls gives. -/
def calls (disk : Disk) (config : Config) (search : Search) :
    List (List Text) → List (Except Failure Report × Search)
  | [] => []
  | seeds :: others =>
      let reached := search.call disk config seeds
      reached :: calls disk config reached.2 others

end Search

end Concordance.Crawl
