import Concordance.Proofs.Crawl.Reach

/-!
Contract: what a crawl that fails leaves behind.

A crawl fails at the first seed that leads nowhere. The queue it has filled until then is
given up, but the paths in it stay seen, and what has been seen is never queued again. So
a later crawl passes over them, though no crawl has ever loaded them.

Owns:
- what calls of a search have in common that has seen more;
- when a failed crawl can be told from none.

Does not own: crawls that do not fail (`Concordance.Proofs.Crawl.Waves`).
-/

set_option autoImplicit false

namespace Concordance.Crawl

open Concordance.Disk (Path)

/-! ## Seeds -/

theorem exists_seed_of_mem_filesAhead {disk : Disk} {config : Config} {seeds : List Text}
    {path : Path} (member : path ∈ filesAhead disk config seeds) :
    ∃ seed files, seedFiles disk config seed = .ok files ∧ path ∈ files ∧
      ∀ other ∈ files, other ∈ filesAhead disk config seeds := by
  induction seeds with
  | nil => cases member
  | cons seed others inductionHypothesis =>
      cases found : seedFiles disk config seed with
      | error failure =>
          rw [filesAhead, found] at member
          cases member
      | ok files =>
          have ahead : filesAhead disk config (seed :: others)
              = files ++ filesAhead disk config others := by
            rw [filesAhead, found]
          rw [ahead] at member ⊢
          rcases List.mem_append.mp member with here | later
          · exact ⟨seed, files, found, here, fun other listed =>
              List.mem_append_left _ listed⟩
          · obtain ⟨first, listed, led, within, all⟩ := inductionHypothesis later
            exact ⟨first, listed, led, within, fun other inList =>
              List.mem_append_right _ (all other inList)⟩

namespace Search

variable {disk : Disk} {config : Config}

/-- Whether seeds fail does not depend on what has been found before. -/
theorem snd_plant (search other : Search) (seeds : List Text) :
    (search.plant disk config seeds).2 = (other.plant disk config seeds).2 := by
  induction seeds generalizing search other with
  | nil => rfl
  | cons seed others inductionHypothesis =>
      rw [plant, plant]
      cases seedFiles disk config seed with
      | error failure => rfl
      | ok files => exact inductionHypothesis _ _

/-- Nothing that has been seen is discovered. -/
theorem discover_eq_self {search : Search} {paths : List Path}
    (known : ∀ path ∈ paths, path ∈ search.seen) : search.discover paths = search := by
  have none : newPaths search.seen paths = [] := by
    rw [List.eq_nil_iff_forall_not_mem]
    intro path member
    obtain ⟨listed, new⟩ := mem_newPaths.mp member
    exact new (known path listed)
  have within : search.seen ∪ paths.toFinset = search.seen := by
    rw [Finset.union_eq_left]
    intro path member
    exact known path (List.mem_toFinset.mp member)
  rw [discover, none, within, List.append_nil]

/-! ## Calls -/

theorem call_of_failure {search : Search} {seeds : List Text} {failure : Failure}
    (led : ((search.requeue []).plant disk config seeds).2 = some failure) :
    search.call disk config seeds
      = (.error failure, (search.requeue []).discover (filesAhead disk config seeds)) := by
  unfold call
  rw [← fst_plant]
  dsimp only
  rw [led]

theorem call_of_success {search : Search} {seeds : List Text}
    (led : ((search.requeue []).plant disk config seeds).2 = none) :
    search.call disk config seeds
      = (.ok (((search.requeue []).discover (filesAhead disk config seeds)).run
            disk config).report,
          ((search.requeue []).discover (filesAhead disk config seeds)).run disk config) :=
  call_of_plant (Prod.ext (fst_plant (search.requeue []) seeds) led)

theorem snd_call_of_error {search : Search} {seeds : List Text} {failure : Failure}
    (failed : (search.call disk config seeds).1 = .error failure) :
    (search.call disk config seeds).2
      = (search.requeue []).discover (filesAhead disk config seeds) := by
  cases led : ((search.requeue []).plant disk config seeds).2 with
  | some other => rw [call_of_failure led]
  | none =>
      rw [call_of_success led] at failed
      cases failed

/-- What one can see of calls: the report or the failure of each of them, and the index
after it. -/
def answers (disk : Disk) (config : Config) (search : Search) (calls : List (List Text)) :
    List (Except Failure Report × Index) :=
  (search.calls disk config calls).map fun reached => (reached.1, reached.2.index)

theorem answers_cons (search : Search) (seeds : List Text) (others : List (List Text)) :
    search.answers disk config (seeds :: others)
      = ((search.call disk config seeds).1, (search.call disk config seeds).2.index)
        :: (search.call disk config seeds).2.answers disk config others := rfl

/-- Every call begins with an empty queue. -/
theorem answers_requeue (search : Search) (queue : List Path) (calls : List (List Text)) :
    (search.requeue queue).answers disk config calls = search.answers disk config calls := by
  cases calls with
  | nil => rfl
  | cons seeds others => rfl

/-- Searches that have indexed and counted the same, whatever they have seen. -/
structure Alike (search other : Search) : Prop where
  index : search.index = other.index
  report : search.report = other.report

theorem Alike.isFull {search other : Search} (alike : search.Alike other)
    (full : other.isFull config = true) : search.isFull config = true := by
  rw [Search.isFull, alike.report]
  exact full

/-- Behind the limit a call changes nothing but what has been seen. -/
theorem call_of_isFull (disk : Disk) {search : Search} (full : search.isFull config = true)
    (seeds : List Text) :
    (search.call disk config seeds).2.Alike search ∧
      (search.call disk config seeds).1
        = match ((search.requeue []).plant disk config seeds).2 with
          | some failure => .error failure
          | none => .ok search.report := by
  have planted : ((search.requeue []).discover (filesAhead disk config seeds)).Alike search :=
    ⟨rfl, rfl⟩
  cases led : ((search.requeue []).plant disk config seeds).2 with
  | some failure =>
      rw [call_of_failure led]
      exact ⟨planted, rfl⟩
  | none =>
      rw [call_of_success led, run_of_isFull (planted.isFull full)]
      exact ⟨planted, rfl⟩

theorem Alike.answers_eq {search other : Search} (alike : search.Alike other)
    (full : other.isFull config = true) (calls : List (List Text)) :
    search.answers disk config calls = other.answers disk config calls := by
  induction calls generalizing search other with
  | nil => rfl
  | cons seeds others inductionHypothesis =>
      obtain ⟨kept, result⟩ := call_of_isFull disk (alike.isFull full) seeds
      obtain ⟨otherKept, otherResult⟩ := call_of_isFull disk full seeds
      have still : (search.call disk config seeds).2.Alike (other.call disk config seeds).2 :=
        ⟨kept.index.trans (alike.index.trans otherKept.index.symm),
          kept.report.trans (alike.report.trans otherKept.report.symm)⟩
      have same : (search.call disk config seeds).1 = (other.call disk config seeds).1 := by
        rw [result, otherResult, snd_plant (search.requeue []) (other.requeue []), alike.report]
      rw [answers_cons, answers_cons, same, still.index,
        inductionHypothesis still (otherKept.isFull full)]

end Search

/-! ## Counting visits -/

/-- Number of documents that a crawl tried to load. -/
def Report.attempts (report : Report) : Nat := report.indexed + report.failed

namespace Search

variable {disk : Disk} {config : Config}

theorem attempts_visit (disk : Disk) (config : Config) (search : Search) (path : Path) :
    (search.visit disk config path).report.attempts = search.report.attempts + 1 := by
  unfold visit Report.attempts
  cases load disk config path with
  | error failure =>
      dsimp only
      omega
  | ok document =>
      dsimp only
      omega

theorem attempts_run_le (disk : Disk) (config : Config) (search : Search) :
    search.report.attempts ≤ (search.run disk config).report.attempts := by
  refine run_keeps (motive := fun later => search.report.attempts ≤ later.report.attempts) ?_
    search (Nat.le_refl _)
  intro later path others _ _ before
  have step := attempts_visit disk config (later.requeue others) path
  have same : (later.requeue others).report = later.report := rfl
  rw [same] at step
  omega

/-- A run with something to visit and room for it visits something. -/
theorem attempts_run_lt (disk : Disk) {search : Search} (room : search.isFull config = false)
    (queued : search.queue ≠ []) :
    search.report.attempts < (search.run disk config).report.attempts := by
  obtain ⟨path, others, queue⟩ := List.exists_cons_of_ne_nil queued
  have step := attempts_visit disk config (search.requeue others) path
  have later := attempts_run_le disk config ((search.requeue others).visit disk config path)
  have same : (search.requeue others).report = search.report := rfl
  rw [run_of_queue_eq_cons room queue]
  rw [same] at step
  omega

/-- A call with one seed whose files have not all been seen tells whether they have been
seen. -/
theorem call_ne_of_new {search : Search} (room : search.isFull config = false)
    {seed : Text} {files ahead : List Path} (led : seedFiles disk config seed = .ok files)
    (within : ∀ path ∈ files, path ∈ ahead) {path : Path} (member : path ∈ files)
    (new : path ∉ search.seen) :
    ((search.discover ahead).call disk config [seed]).1
      ≠ (search.call disk config [seed]).1 := by
  have planted : ∀ other : Search,
      (other.requeue []).plant disk config [seed] = ((other.requeue []).discover files, none) := by
    intro other
    rw [plant, led]
    rfl
  -- The one call finds an empty queue, and the other has something to visit.
  have known : ((search.discover ahead).requeue []).discover files
      = (search.discover ahead).requeue [] := by
    apply discover_eq_self
    intro other listed
    exact Finset.mem_union_right _ (List.mem_toFinset.mpr (within other listed))
  have idle : ((search.discover ahead).requeue []).run disk config
      = (search.discover ahead).requeue [] := run_of_queue_eq_nil rfl
  have queued : ((search.requeue []).discover files).queue ≠ [] :=
    List.ne_nil_of_mem (mem_newPaths.mpr ⟨member, new⟩)
  have fresh : ((search.requeue []).discover files).isFull config = false := room
  have visited : search.report.attempts
      < (((search.requeue []).discover files).run disk config).report.attempts :=
    attempts_run_lt disk fresh queued
  rw [call_of_plant (planted _), call_of_plant (planted _), known, idle]
  intro same
  have counted : search.report.attempts
      = (((search.requeue []).discover files).run disk config).report.attempts :=
    congrArg Report.attempts (Except.ok.inj same)
  omega

/-- Having seen more paths shows in later calls, unless nothing may be indexed any more. -/
theorem answers_discover_iff (disk : Disk) (config : Config) (search : Search)
    (seeds : List Text) :
    (∀ calls, (search.discover (filesAhead disk config seeds)).answers disk config calls
        = search.answers disk config calls) ↔
      search.isFull config = true ∨
        ∀ path ∈ filesAhead disk config seeds, path ∈ search.seen := by
  constructor
  · intro same
    by_contra told
    push Not at told
    obtain ⟨room, path, member, new⟩ := told
    obtain ⟨seed, files, led, listed, within⟩ := exists_seed_of_mem_filesAhead member
    have alone := same [[seed]]
    rw [answers_cons, answers_cons, List.cons.injEq, Prod.mk.injEq] at alone
    exact call_ne_of_new (eq_false_of_ne_true room) led within listed new alone.1.1
  · rintro (full | known) calls
    · have alike : (search.discover (filesAhead disk config seeds)).Alike search := ⟨rfl, rfl⟩
      exact alike.answers_eq full calls
    · rw [discover_eq_self known]

end Search

/-! ## Crawlers -/

/-- The order of paths, in which the paths that have been seen can be listed. -/
theorem transCmp_path : Std.TransCmp (compare : Path → Path → Ordering) := inferInstance

/-- The search that has found what a crawler has found. -/
def Crawler.search (crawler : Crawler) : Search :=
  letI := transCmp_path
  ⟨[], [], crawler.seen.toList.toFinset, crawler.index, crawler.report⟩

theorem Crawler.agrees_search (crawler : Crawler) :
    crawler.Agrees crawler.config crawler.search where
  settings := rfl
  index := rfl
  seen := fun path => by
    rw [Crawler.search, List.mem_toFinset, Std.ExtTreeSet.mem_toList]
  report := rfl

theorem Crawler.isFull_search (crawler : Crawler) :
    crawler.search.isFull crawler.config = crawler.isFull :=
  crawler.agrees_search.begin.isFull_eq.symm

/-- What one can see of crawls: the report or the failure of each of them, and the index
after it. -/
def answers (disk : Disk) (crawler : Crawler) (calls : List (List Text)) :
    List (Except Failure Report × Index) :=
  (crawls disk crawler calls).map fun outcome => (outcome.result, outcome.crawler.index)

theorem Crawler.Agrees.answers_eq (disk : Disk) {config : Config} {crawler : Crawler}
    {search : Search} (agrees : crawler.Agrees config search) (calls : List (List Text)) :
    answers disk crawler calls = search.answers disk config calls := by
  induction calls generalizing crawler search with
  | nil => rfl
  | cons seeds others inductionHypothesis =>
      obtain ⟨result, reached⟩ := agrees.crawl disk seeds
      have later := inductionHypothesis reached
      rw [Search.answers_cons, ← result, ← reached.index, ← later]
      rfl

/-- A failed crawl leaves the index and the counts as they were. Later crawls give what
they would give without it exactly if nothing may be indexed any more, or if all files of
the seeds in front of the one that failed had been seen before; otherwise these files stay
seen without ever having been loaded. -/
theorem crawl_failed_iff {disk : Disk} {crawler : Crawler} {seeds : List Text}
    {failure : Failure} (failed : (crawl disk crawler seeds).result = .error failure) :
    let left := (crawl disk crawler seeds).crawler
    let ahead := filesAhead disk crawler.config seeds
    left.config = crawler.config ∧ left.index = crawler.index ∧
      left.report = crawler.report ∧
      (∀ path, path ∈ left.seen ↔ path ∈ crawler.seen ∨ path ∈ ahead) ∧
      ((∀ calls, answers disk left calls = answers disk crawler calls) ↔
        crawler.isFull = true ∨ ∀ path ∈ ahead, path ∈ crawler.seen) := by
  intro left ahead
  have agrees := crawler.agrees_search
  obtain ⟨result, reached⟩ := agrees.crawl disk seeds
  rw [Search.snd_call_of_error (result.symm.trans failed)] at reached
  refine ⟨reached.settings, reached.index, reached.report, fun path => ?_, ?_⟩
  · rw [reached.seen, agrees.seen]
    simp [Search.discover, Search.requeue, ahead]
  · have told := (crawler.search.requeue []).answers_discover_iff disk crawler.config seeds
    simp only [Search.answers_requeue] at told
    have after : ∀ calls, answers disk left calls
        = ((crawler.search.requeue []).discover ahead).answers disk crawler.config calls :=
      reached.answers_eq disk
    simp only [after, agrees.answers_eq disk]
    rw [told]
    refine or_congr (Bool.eq_iff_iff.mp crawler.isFull_search) (forall₂_congr fun path _ => ?_)
    exact (agrees.seen path).symm

/-- A disk with one page. -/
def onePage : Disk where
  entries := [(Utf8.encode "a.txt", .file (Utf8.encode "alpha"))]
  current := []

/-- The page is loaded first. A second crawl, which queues it again and then fails, can not
be told from none. -/
theorem crawl_failed_onePage :
    let loaded := (crawl onePage (Crawler.new .initial) ["a.txt"]).crawler
    let left := (crawl onePage loaded ["a.txt", "b.txt"]).crawler
    (crawl onePage loaded ["a.txt", "b.txt"]).result
        = .error (.crawl "Cannot open seed b.txt: No such file or directory (os error 2)") ∧
      left.report = ⟨1, 0, 1, 0⟩ ∧
      ∀ calls, answers onePage left calls = answers onePage loaded calls := by
  intro loaded left
  have failed : (crawl onePage loaded ["a.txt", "b.txt"]).result
      = .error (.crawl "Cannot open seed b.txt: No such file or directory (os error 2)") := by
    decide +kernel
  obtain ⟨_, _, report, _, untold⟩ := crawl_failed_iff failed
  refine ⟨failed, report.trans (by decide +kernel), untold.mpr (.inr ?_)⟩
  decide +kernel

/-- The page stands in front of a seed that leads nowhere. After this crawl has failed,
a crawl of the page alone indexes nothing, which without the failed crawl indexes it. -/
theorem crawl_failed_hides_page :
    let fresh := Crawler.new .initial
    let left := (crawl onePage fresh ["a.txt", "b.txt"]).crawler
    (crawl onePage fresh ["a.txt", "b.txt"]).result
        = .error (.crawl "Cannot open seed b.txt: No such file or directory (os error 2)") ∧
      (crawl onePage left ["a.txt"]).result = .ok ⟨0, 0, 0, 0⟩ ∧
      (crawl onePage left ["a.txt"]).crawler.index.documentCount = 0 ∧
      (crawl onePage fresh ["a.txt"]).result = .ok ⟨1, 0, 1, 0⟩ ∧
      (crawl onePage fresh ["a.txt"]).crawler.index.documentCount = 1 := by
  decide +kernel

end Concordance.Crawl
