import Concordance.Proofs.Crawl.Tally

/-!
Contract: what a limit on the number of documents changes.

Without a limit the same paths are queued in the same order. A limit only ends the run
earlier, behind the last document it leaves room for, so that what is indexed is a prefix.

Owns:
- settings with the same extensions, and that they find the same;
- settings with another limit, and that they load the same;
- the front of a list up to the last element that there is room for;
- a crawl with a limit compared with the same one without, and the bound that all crawls
  of one crawler keep together.

Does not own: the order in which documents are indexed (`Concordance.Proofs.Crawl.Search`).
-/

set_option autoImplicit false

namespace Concordance.Crawl

open Concordance.Disk (Path)

/-! ## Settings with the same extensions -/

section SameExtensions

variable {config other : Config}

theorem wants_congr (same : config.extensions = other.extensions) (path : Path) :
    config.wants path = other.wants path := by
  unfold Config.wants
  rw [same]

variable (disk : Disk)

mutual

/-- Which files are picked up depends on no other settings. -/
theorem nodeFindings_congr (same : config.extensions = other.extensions) (path : Path)
    (node : Disk.Node) :
    nodeFindings disk config path node = nodeFindings disk other path node := by
  cases node with
  | file content
  | guarded content => rw [nodeFindings, nodeFindings, wants_congr same]
  | link text => rw [nodeFindings, nodeFindings, linkFinding?, linkFinding?, wants_congr same]
  | directory entries => rw [nodeFindings, nodeFindings, entryFindings_congr same path entries]

theorem entryFindings_congr (same : config.extensions = other.extensions) (path : Path)
    (entries : Disk.Entries) :
    entryFindings disk config path entries = entryFindings disk other path entries := by
  cases entries with
  | nil => rw [entryFindings, entryFindings]
  | cons first others =>
      rw [entryFindings, entryFindings, nodeFindings_congr same _ first.2,
        entryFindings_congr same path others]

end

theorem seedFiles_congr (same : config.extensions = other.extensions) (seed : Text) :
    seedFiles disk config seed = seedFiles disk other seed := by
  unfold seedFiles findings
  simp only [entryFindings_congr disk same]

theorem filesAhead_congr (same : config.extensions = other.extensions) (seeds : List Text) :
    filesAhead disk config seeds = filesAhead disk other seeds := by
  induction seeds with
  | nil => rfl
  | cons seed others inductionHypothesis =>
      rw [filesAhead, filesAhead, seedFiles_congr disk same, inductionHypothesis]

theorem Search.plant_congr (same : config.extensions = other.extensions) (search : Search)
    (seeds : List Text) : search.plant disk config seeds = search.plant disk other seeds := by
  induction seeds generalizing search with
  | nil => rfl
  | cons seed others inductionHypothesis =>
      rw [plant, plant, seedFiles_congr disk same]
      simp only [inductionHypothesis]

end SameExtensions

/-! ## Settings with another limit -/

/-- The settings with another limit. -/
def Config.withLimit (config : Config) (limit : Option Nat) : Config := { config with limit }

section WithLimit

variable (disk : Disk) (config : Config) (limit : Option Nat)

theorem filesAhead_withLimit (seeds : List Text) :
    filesAhead disk (config.withLimit limit) seeds = filesAhead disk config seeds := by
  apply filesAhead_congr
  rfl

theorem Search.plant_withLimit (search : Search) (seeds : List Text) :
    search.plant disk (config.withLimit limit) seeds = search.plant disk config seeds := by
  apply plant_congr
  rfl

theorem Search.visit_withLimit (search : Search) (path : Path) :
    search.visit disk (config.withLimit limit) path = search.visit disk config path := rfl

theorem textsAt_withLimit :
    textsAt disk (config.withLimit limit) = textsAt disk config := rfl

end WithLimit

/-! ## The front of a list -/

section Front

variable {α : Type} (passes : α → Bool)

/-- The front of a list up to and with the element that is the `count`-th to pass, or the
whole list if fewer pass. -/
def upTo : Nat → List α → List α
  | 0, _ => []
  | _ + 1, [] => []
  | count + 1, first :: others =>
      first :: upTo (if passes first then count else count + 1) others

theorem upTo_isPrefix (count : Nat) (list : List α) : upTo passes count list <+: list := by
  induction list generalizing count with
  | nil => cases count <;> exact List.nil_prefix
  | cons first others inductionHypothesis =>
      cases count with
      | zero => exact List.nil_prefix
      | succ fewer => exact (List.prefix_cons_inj first).mpr (inductionHypothesis _)

/-- What passes in the front are the first elements that pass at all. -/
theorem filter_upTo (count : Nat) (list : List α) :
    (upTo passes count list).filter passes = (list.filter passes).take count := by
  induction list generalizing count with
  | nil => cases count <;> rfl
  | cons first others inductionHypothesis =>
      cases count with
      | zero => rfl
      | succ fewer =>
          rw [upTo]
          by_cases passed : passes first = true
          · rw [if_pos passed, List.filter_cons_of_pos passed, List.filter_cons_of_pos passed,
              List.take_succ_cons, inductionHypothesis]
          · rw [if_neg passed, List.filter_cons_of_neg passed, List.filter_cons_of_neg passed,
              inductionHypothesis]

end Front

/-! ## Runs -/

namespace Search

variable {disk : Disk} {config : Config}

/-- A run with a limit visits the front of what it visits without one. -/
theorem exists_visited_run_withLimit (disk : Disk) (config : Config) (limit : Nat)
    (search : Search) :
    ∃ rest, (search.run disk (config.withLimit none)).visited = search.visited ++ rest ∧
      (search.run disk (config.withLimit (some limit))).visited
        = search.visited ++ upTo (isReadable disk) (limit - search.report.indexed) rest := by
  fun_induction Search.run disk (config.withLimit none) search with
  | case1 search full => cases full
  | case2 search room empty =>
      refine ⟨[], (List.append_nil _).symm, ?_⟩
      rw [run_of_queue_eq_nil empty]
      cases limit - search.report.indexed <;> exact (List.append_nil _).symm
  | case3 search room path others queued inductionHypothesis =>
      obtain ⟨rest, whole, cut⟩ := inductionHypothesis
      rw [visited_visit, List.append_assoc] at whole cut
      refine ⟨path :: rest, whole, ?_⟩
      cases left : limit - search.report.indexed with
      | zero =>
          have full : search.isFull (config.withLimit (some limit)) = true :=
            decide_eq_true (by omega)
          rw [run_of_isFull full]
          exact (List.append_nil _).symm
      | succ fewer =>
          have below : search.isFull (config.withLimit (some limit)) = false :=
            decide_eq_false (by omega)
          have counted := indexed_visit disk config (search.requeue others) path
          have same : (search.requeue others).report.indexed = search.report.indexed := rfl
          have remaining : limit - ((search.requeue others).visit disk config path).report.indexed
              = if isReadable disk path then fewer else fewer + 1 := by
            rw [counted, same]
            split <;> omega
          rw [visit_withLimit, remaining] at cut
          rw [run_of_queue_eq_cons below queued, visit_withLimit]
          exact cut

/-! ## The bound -/

theorem indexed_run_le {limit : Nat} (limited : config.limit = some limit) (search : Search)
    (within : search.report.indexed ≤ limit) :
    (search.run disk config).report.indexed ≤ limit := by
  refine run_keeps (motive := fun search => search.report.indexed ≤ limit) ?_ search within
  intro search path others room _ _
  have step := indexed_visit_le disk config (search.requeue others) path
  have same : (search.requeue others).report.indexed = search.report.indexed := rfl
  rw [isFull, limited] at room
  have below : ¬limit ≤ search.report.indexed := of_decide_eq_false room
  omega

theorem indexed_call_le {limit : Nat} (limited : config.limit = some limit) (search : Search)
    (within : search.report.indexed ≤ limit) (seeds : List Text) :
    (search.call disk config seeds).2.report.indexed ≤ limit := by
  cases led : ((search.requeue []).plant disk config seeds).2 with
  | some failure =>
      rw [call_of_failure led]
      exact within
  | none =>
      rw [call_of_success led]
      exact indexed_run_le limited _ within

end Search

/-- All crawls of a crawler together keep within its limit. -/
theorem indexed_le_of_mem_crawls {disk : Disk} {crawler : Crawler} {limit : Nat}
    (limited : crawler.config.limit = some limit) (within : crawler.report.indexed ≤ limit)
    {calls : List (List Text)} {outcome : Outcome} (member : outcome ∈ crawls disk crawler calls) :
    outcome.crawler.report.indexed ≤ limit := by
  induction calls generalizing crawler with
  | nil => cases member
  | cons seeds others inductionHypothesis =>
      obtain ⟨_, agrees⟩ := crawler.agrees_search.crawl disk seeds
      have kept : (crawl disk crawler seeds).crawler.report.indexed ≤ limit := by
        rw [agrees.report]
        exact Search.indexed_call_le limited crawler.search within seeds
      rcases List.mem_cons.mp member with rfl | later
      · exact kept
      · exact inductionHypothesis (by rw [agrees.settings, limited]) kept later

/-! ## Whole crawls -/

theorem Search.tallied_ofSeeds (disk : Disk) (config : Config) (seeds : List Text) :
    (ofSeeds disk config seeds).Tallied disk config :=
  Tallied.run ⟨rfl, rfl, rfl, rfl⟩

/-- From the same seeds, a limit leaves a front of the visited paths. -/
theorem Search.visited_ofSeeds_withLimit (disk : Disk) (config : Config) (limit : Nat)
    (seeds : List Text) :
    (ofSeeds disk (config.withLimit (some limit)) seeds).visited
      = upTo (isReadable disk) limit (ofSeeds disk (config.withLimit none) seeds).visited := by
  obtain ⟨rest, whole, cut⟩ := exists_visited_run_withLimit disk config limit
    ((start Index.empty).discover (filesAhead disk config seeds))
  rw [ofSeeds, ofSeeds, filesAhead_withLimit, filesAhead_withLimit, cut, whole]
  rfl

/-- Unreadable documents have no texts. -/
theorem flatMap_textsAt_filter (disk : Disk) (config : Config) (paths : List Path) :
    (paths.filter (isReadable disk)).flatMap (textsAt disk config)
      = paths.flatMap (textsAt disk config) := by
  induction paths with
  | nil => rfl
  | cons path others inductionHypothesis =>
      by_cases readable : isReadable disk path = true
      · rw [List.filter_cons_of_pos readable, List.flatMap_cons, List.flatMap_cons,
          inductionHypothesis]
      · have none : textsAt disk config path = [] := by
          have unread := mt (isReadable_iff disk config path).mpr readable
          unfold textsAt
          cases loaded : load disk config path with
          | error failure => rfl
          | ok document => exact absurd ⟨document, loaded⟩ unread
        rw [List.filter_cons_of_neg readable, List.flatMap_cons, none, List.nil_append,
          inductionHypothesis]

section Fresh

variable {disk : Disk} {config : Config} {seeds : List Text}

/-- A first crawl indexes what it can read of the paths that it loads, and counts the
rest as failed. -/
theorem crawl_new_counted
    (led : ((Search.start Index.empty).plant disk config seeds).2 = none) :
    let loaded := pathsLoaded disk config seeds
    let readable := loaded.filter (isReadable disk)
    ∃ report, (crawl disk (Crawler.new config) seeds).result = .ok report ∧
      report.indexed = readable.length ∧
      report.failed = loaded.countP (fun path => !isReadable disk path) ∧
      (crawl disk (Crawler.new config) seeds).crawler.index
        = Index.ofTexts (readable.flatMap (textsAt disk config)) := by
  intro loaded readable
  obtain ⟨result, agrees, visited⟩ := crawl_new_of_plant led
  have tally := Search.tallied_ofSeeds disk config seeds
  refine ⟨_, result, ?_, ?_, ?_⟩
  · rw [tally.indexed, visited, List.countP_eq_length_filter]
  · rw [tally.failed, visited]
  · rw [agrees.index, tally.index, Search.texts, visited, flatMap_textsAt_filter]

/-- Where a first crawl succeeds, it does so with any limit. Without one, it indexes every
document that it can read. With one, it loads a front of the same paths and indexes the
first of the same documents, with the same texts, as many as there is room for: what
cannot be read takes no room. No later crawl of the same crawler exceeds the limit. -/
theorem crawl_withLimit {report : Report} (limit : Nat)
    (finished : (crawl disk (Crawler.new config) seeds).result = .ok report) :
    let whole := crawl disk (Crawler.new (config.withLimit none)) seeds
    let cut := crawl disk (Crawler.new (config.withLimit (some limit))) seeds
    let available := pathsLoaded disk (config.withLimit none) seeds
    let loaded := pathsLoaded disk (config.withLimit (some limit)) seeds
    let readable := available.filter (isReadable disk)
    (∃ report, whole.result = .ok report ∧ report.indexed = readable.length ∧
      whole.crawler.index = Index.ofTexts (readable.flatMap (textsAt disk config))) ∧
    (∃ report, cut.result = .ok report ∧ report.indexed = min limit readable.length ∧
      report.failed = loaded.countP (fun path => !isReadable disk path) ∧
      cut.crawler.index
        = Index.ofTexts ((readable.take limit).flatMap (textsAt disk config))) ∧
    loaded <+: available ∧ loaded.filter (isReadable disk) = readable.take limit ∧
    ∀ calls, ∀ outcome ∈ crawls disk cut.crawler calls,
      outcome.crawler.report.indexed ≤ limit := by
  intro whole cut available loaded readable
  have led := plant_start_of_crawl finished
  have wholeLed : ((Search.start Index.empty).plant disk (config.withLimit none) seeds).2
      = none := by rwa [Search.plant_withLimit]
  have cutLed : ((Search.start Index.empty).plant disk (config.withLimit (some limit)) seeds).2
      = none := by rwa [Search.plant_withLimit]
  obtain ⟨_, _, wholeVisited⟩ := crawl_new_of_plant wholeLed
  obtain ⟨_, cutAgrees, cutVisited⟩ := crawl_new_of_plant cutLed
  obtain ⟨wholeReport, wholeResult, wholeIndexed, _, wholeIndex⟩ := crawl_new_counted wholeLed
  obtain ⟨cutReport, cutResult, cutIndexed, cutFailed, cutIndex⟩ := crawl_new_counted cutLed
  have front : loaded = upTo (isReadable disk) limit available := by
    have cut := Search.visited_ofSeeds_withLimit disk config limit seeds
    rwa [wholeVisited, cutVisited] at cut
  have taken : loaded.filter (isReadable disk) = readable.take limit :=
    (congrArg _ front).trans (filter_upTo _ limit available)
  have bounded : cutReport.indexed = min limit readable.length := by
    rw [cutIndexed, taken, List.length_take]
  rw [taken, textsAt_withLimit] at cutIndex
  refine ⟨⟨wholeReport, wholeResult, wholeIndexed, wholeIndex⟩,
    ⟨cutReport, cutResult, bounded, cutFailed, cutIndex⟩, ?_, taken,
    fun calls outcome member => ?_⟩
  · rw [front]
    exact upTo_isPrefix _ limit available
  · refine indexed_le_of_mem_crawls (congrArg Config.limit cutAgrees.settings) ?_ member
    rw [report_of_crawl cutResult, bounded]
    exact Nat.min_le_left _ _

end Fresh

/-- The second path cannot be read, so that room for two documents lasts up to the third. -/
theorem crawl_withLimit_aliases :
    let cut := crawl aliases (Crawler.new (Config.initial.withLimit (some 2))) ["/"]
    let loaded := pathsLoaded aliases (Config.initial.withLimit (some 2)) ["/"]
    (crawl aliases (Crawler.new .initial) ["/"]).result = .ok ⟨3, 1, 3, 0⟩ ∧
      pathsLoaded aliases .initial ["/"]
        = [[Utf8.encode "a.html"], [Utf8.encode "b.txt"], [Utf8.encode "c.txt"],
            [Utf8.encode "d.txt"]] ∧
      (∃ report, cut.result = .ok report ∧ report.indexed = 2) ∧
      loaded.filter (isReadable aliases) = [[Utf8.encode "a.html"], [Utf8.encode "c.txt"]] := by
  intro cut loaded
  have planted := plant_aliases ⟨Crawler.new .initial, []⟩ rfl
  have finished : (crawl aliases (Crawler.new .initial) ["/"]).result = .ok ⟨3, 1, 3, 0⟩ := by
    simp only [crawl, planted]
    decide +kernel
  have available : pathsLoaded aliases .initial ["/"]
      = [[Utf8.encode "a.html"], [Utf8.encode "b.txt"], [Utf8.encode "c.txt"],
          [Utf8.encode "d.txt"]] := by
    simp only [pathsLoaded, planted]
    decide +kernel
  have readable : (pathsLoaded aliases (Config.initial.withLimit none) ["/"]).filter
        (isReadable aliases)
      = [[Utf8.encode "a.html"], [Utf8.encode "c.txt"], [Utf8.encode "d.txt"]] := by
    have same : Config.initial.withLimit none = .initial := rfl
    rw [same, available]
    decide +kernel
  obtain ⟨_, ⟨report, ended, indexed, _⟩, _, first, _⟩ := crawl_withLimit 2 finished
  rw [readable] at indexed first
  exact ⟨finished, available, ⟨report, ended, indexed⟩, first⟩

end Concordance.Crawl
