import Concordance.Proofs.Crawl.Failing
import Concordance.Proofs.Index.Counting
import Concordance.Proofs.Url.Percent

/-!
Contract: the counts of a crawler and those of its index.

A crawler counts what it loads, and its index counts documents by their keys and words
by their places. Both are counts of the visited paths: no path is visited twice, and no
two files have the same key.

Owns:
- the counts and the index of a search as those of its visited paths;
- that every path stands once on the trail of a search;
- what holds of a crawler after each of several crawls.

Does not own: which paths are visited (`Concordance.Proofs.Crawl.Reach`) and the counts of
an index of texts (`Concordance.Proofs.Index.Counting`).
-/

set_option autoImplicit false

namespace Concordance.Crawl

open Concordance.Disk (Path)

namespace Search

variable {disk : Disk} {config : Config} {search : Search}

/-! ## Counts of the visited paths -/

/-- The texts of the paths that a search has visited, in order. -/
def texts (disk : Disk) (config : Config) (search : Search) : List (Text × Text) :=
  search.visited.flatMap (textsAt disk config)

/-- A search has counted and indexed just the paths that it has visited. -/
structure Tallied (disk : Disk) (config : Config) (search : Search) : Prop where
  indexed : search.report.indexed = search.visited.countP (isReadable disk)
  failed : search.report.failed = search.visited.countP fun path => !isReadable disk path
  words : search.report.words
    = Index.total ((search.texts disk config).map fun entry => entry.2.words.length)
  index : search.index = Index.ofTexts (search.texts disk config)

theorem tallied_start : (start Index.empty).Tallied disk config := ⟨rfl, rfl, rfl, rfl⟩

theorem texts_visit (search : Search) (path : Path) :
    (search.visit disk config path).texts disk config
      = search.texts disk config ++ textsAt disk config path := by
  rw [texts, visited_visit, List.flatMap_append, List.flatMap_singleton, texts]

theorem Tallied.visit (tallied : search.Tallied disk config) (queue : List Path)
    (path : Path) : ((search.requeue queue).visit disk config path).Tallied disk config where
  indexed := by
    rw [indexed_visit, visited_visit, List.countP_append, List.countP_singleton]
    exact congrArg (· + _) tallied.indexed
  failed := by
    rw [failed_visit, visited_visit, List.countP_append, List.countP_singleton]
    exact congrArg (· + _) tallied.failed
  words := by
    rw [words_visit, texts_visit, List.map_append, Index.total_eq_sum, Index.total_eq_sum,
      List.sum_append, ← Index.total_eq_sum, ← Index.total_eq_sum]
    exact congrArg (· + _) tallied.words
  index := by
    rw [index_visit, texts_visit, ofTexts_append]
    exact congrArg (List.foldl _ · _) tallied.index

theorem Tallied.run (tallied : search.Tallied disk config) :
    (search.run disk config).Tallied disk config :=
  run_keeps (fun _ path others _ _ kept => kept.visit others path) search tallied

/-- Every visit is counted as one or the other. -/
theorem Tallied.attempts_eq (tallied : search.Tallied disk config) :
    search.report.attempts = search.visited.length := by
  have split := List.length_eq_countP_add_countP (isReadable disk) (l := search.visited)
  simp only [Bool.not_eq_true, Bool.decide_eq_false] at split
  rw [Report.attempts, tallied.indexed, tallied.failed, split]

/-! ## The trail -/

/-- A search has gone on to another: the paths that are new have not been seen before and
stand at the end of the trail. -/
def Extends (search later : Search) : Prop :=
  ∃ new : List Path, new.Nodup ∧ (∀ path ∈ new, path ∉ search.seen) ∧
    later.trail = search.trail ++ new ∧
      ∀ path, path ∈ later.seen ↔ path ∈ search.seen ∨ path ∈ new

theorem extends_discover (search : Search) (paths : List Path) :
    search.Extends (search.discover paths) := by
  refine ⟨newPaths search.seen paths, nodup_newPaths _ _, fun path new => ?_, ?_, fun path => ?_⟩
  · exact (mem_newPaths.mp new).2
  · exact (List.append_assoc _ _ _).symm
  · exact mem_union_toFinset_iff

theorem extends_visit {path : Path} {others : List Path} (queue : search.queue = path :: others) :
    search.Extends ((search.requeue others).visit disk config path) :=
  ⟨search.found disk config path, nodup_found disk config search path,
    fun _ => notMem_seen_of_mem_found, trail_visit disk config queue,
    mem_seen_visit disk config (search.requeue others) path⟩

/-- Every path on the trail has been seen, and stands there once. -/
structure Orderly (search : Search) : Prop where
  distinct : search.trail.Nodup
  known : ∀ path ∈ search.trail, path ∈ search.seen

theorem orderly_start (index : Index) : (start index).Orderly :=
  ⟨List.nodup_nil, fun _ member => absurd member List.not_mem_nil⟩

theorem Orderly.extend {later : Search} (orderly : search.Orderly)
    (further : search.Extends later) : later.Orderly := by
  obtain ⟨new, distinct, fresh, trail, seen⟩ := further
  constructor
  · rw [trail]
    refine List.nodup_append.mpr ⟨orderly.distinct, distinct, ?_⟩
    rintro path earlier _ found rfl
    exact fresh path found (orderly.known path earlier)
  · intro path member
    rw [trail] at member
    exact (seen path).mpr ((List.mem_append.mp member).imp_left (orderly.known path))

/-- What is left in the queue can be given up. -/
theorem Orderly.begin (orderly : search.Orderly) : (search.requeue []).Orderly := by
  have kept : (search.requeue []).trail = search.visited := List.append_nil _
  constructor
  · rw [kept]
    exact (List.nodup_append.mp orderly.distinct).1
  · intro path member
    rw [kept] at member
    exact orderly.known path (List.mem_append_left _ member)

/-- Every path that has been seen is on the trail. -/
def IsWhole (search : Search) : Prop := ∀ path ∈ search.seen, path ∈ search.trail

theorem IsWhole.extend {later : Search} (whole : search.IsWhole)
    (further : search.Extends later) : later.IsWhole := by
  obtain ⟨new, _, _, trail, seen⟩ := further
  intro path member
  rw [trail, List.mem_append]
  exact ((seen path).mp member).imp_left (whole path)

/-! ## Calls -/

/-- What visits and discoveries keep, a call keeps. -/
theorem call_keeps {motive : Search → Prop}
    (extend : ∀ search later : Search, search.Extends later → motive search → motive later)
    {search : Search} (begin : motive (search.requeue [])) (seeds : List Text) :
    motive (search.call disk config seeds).2 := by
  have planted := extend _ _ (extends_discover _ (filesAhead disk config seeds)) begin
  cases led : ((search.requeue []).plant disk config seeds).2 with
  | some failure =>
      rw [call_of_failure led]
      exact planted
  | none =>
      rw [call_of_success led]
      exact run_keeps (fun _ _ _ _ queue => extend _ _ (extends_visit queue)) _ planted

theorem Orderly.call (orderly : search.Orderly) (seeds : List Text) :
    (search.call disk config seeds).2.Orderly :=
  call_keeps (fun _ _ further kept => kept.extend further) orderly.begin seeds

theorem Tallied.call (tallied : search.Tallied disk config) (seeds : List Text) :
    (search.call disk config seeds).2.Tallied disk config := by
  have planted : ((search.requeue []).discover (filesAhead disk config seeds)).Tallied
      disk config := ⟨tallied.indexed, tallied.failed, tallied.words, tallied.index⟩
  cases led : ((search.requeue []).plant disk config seeds).2 with
  | some failure =>
      rw [call_of_failure led]
      exact planted
  | none =>
      rw [call_of_success led]
      exact planted.run

/-- Every path that has been seen has been visited. -/
def IsSettled (search : Search) : Prop := ∀ path ∈ search.seen, path ∈ search.visited

/-- Without a limit, a call that succeeds visits whatever it has seen. -/
theorem IsSettled.call (unlimited : config.limit = none) (settled : search.IsSettled)
    {seeds : List Text} {report : Report}
    (finished : (search.call disk config seeds).1 = .ok report) :
    (search.call disk config seeds).2.IsSettled := by
  have begun : (search.requeue []).IsWhole := fun path member =>
    List.mem_append_left _ (settled path member)
  have whole : (search.call disk config seeds).2.IsWhole :=
    call_keeps (fun _ _ further kept => kept.extend further) begun seeds
  have emptied : (search.call disk config seeds).2.queue = [] := by
    cases led : ((search.requeue []).plant disk config seeds).2 with
    | some failure =>
        rw [call_of_failure led] at finished
        cases finished
    | none =>
        rw [call_of_success led]
        exact queue_run unlimited _
  intro path member
  have onTrail := whole path member
  rwa [trail, emptied, List.append_nil] at onTrail

/-! ## Counts of a search and of its index -/

theorem Orderly.nodup_visited (orderly : search.Orderly) : search.visited.Nodup :=
  (List.nodup_append.mp orderly.distinct).1

theorem Orderly.attempts_le (orderly : search.Orderly) (tallied : search.Tallied disk config) :
    search.report.attempts ≤ search.seen.card := by
  rw [tallied.attempts_eq, ← List.toFinset_card_of_nodup orderly.nodup_visited]
  refine Finset.card_le_card fun path member => ?_
  exact orderly.known path (List.mem_append_left _ (List.mem_toFinset.mp member))

theorem IsSettled.attempts_eq (settled : search.IsSettled) (orderly : search.Orderly)
    (tallied : search.Tallied disk config) :
    search.report.attempts = search.seen.card := by
  refine Nat.le_antisymm (orderly.attempts_le tallied) ?_
  rw [tallied.attempts_eq, ← List.toFinset_card_of_nodup orderly.nodup_visited]
  exact Finset.card_le_card fun path member => List.mem_toFinset.mpr (settled path member)

end Search

/-! ## Keys of the documents that are read -/

/-- The topmost directory cannot be read. -/
theorem ne_nil_of_isReadable {disk : Disk} {path : Path}
    (readable : isReadable disk path = true) : path ≠ [] := by
  rintro rfl
  cases readable

theorem mem_map_fst_textsAt {disk : Disk} {config : Config} {path : Path} {document : Text} :
    document ∈ (textsAt disk config path).map Prod.fst ↔
      isReadable disk path = true ∧ document = key path := by
  have readable := isReadable_iff disk config path
  unfold textsAt
  cases loaded : load disk config path with
  | error failure => simp [readable, loaded]
  | ok content => simp [readable, loaded]

namespace Search

variable {disk : Disk} {config : Config} {search : Search}

/-- Different files have different keys, so that the index knows one document for each
file that was read. -/
theorem Tallied.documentCount_eq (tallied : search.Tallied disk config)
    (orderly : search.Orderly) : search.index.documentCount = search.report.indexed := by
  have keys : ((search.texts disk config).map Prod.fst).toFinset
      = ((search.visited.filter (isReadable disk)).map key).toFinset := by
    ext document
    rw [texts, List.map_flatMap, List.mem_toFinset, List.mem_flatMap, List.mem_toFinset,
      List.mem_map]
    simp only [mem_map_fst_textsAt, List.mem_filter]
    constructor
    · rintro ⟨path, visited, readable, rfl⟩
      exact ⟨path, ⟨visited, readable⟩, rfl⟩
    · rintro ⟨path, ⟨visited, readable⟩, rfl⟩
      exact ⟨path, visited, readable, rfl⟩
  have distinct : ((search.visited.filter (isReadable disk)).map key).Nodup := by
    refine List.Nodup.map_on ?_ (orderly.nodup_visited.filter _)
    intro path listed other otherListed same
    exact key_injOn (ne_nil_of_isReadable (List.mem_filter.mp listed).2)
      (ne_nil_of_isReadable (List.mem_filter.mp otherListed).2) same
  rw [tallied.index, Index.documentCount_ofTexts, keys, List.toFinset_card_of_nodup distinct,
    List.length_map, tallied.indexed, List.countP_eq_length_filter]

theorem Tallied.positions_eq (tallied : search.Tallied disk config) :
    search.index.statistics.positions = search.report.words := by
  rw [tallied.index, Index.positions_ofTexts, tallied.words]

end Search

/-! ## Crawlers -/

theorem Crawler.Agrees.size_seen {config : Config} {crawler : Crawler} {search : Search}
    (agrees : crawler.Agrees config search) : crawler.seen.size = search.seen.card := by
  have := transCmp_path
  have listed : search.seen = crawler.seen.toList.toFinset := by
    ext path
    rw [← agrees.seen, List.mem_toFinset, Std.ExtTreeSet.mem_toList]
  have distinct : crawler.seen.toList.Nodup :=
    Std.ExtTreeSet.distinct_toList.imp fun different same =>
      different (Std.compare_eq_iff_eq.mpr same)
  rw [listed, List.toFinset_card_of_nodup distinct, Std.ExtTreeSet.length_toList]

/-- The report of a crawl is that of the crawler afterwards. -/
theorem report_of_crawl {disk : Disk} {crawler : Crawler} {seeds : List Text} {report : Report}
    (finished : (crawl disk crawler seeds).result = .ok report) :
    (crawl disk crawler seeds).crawler.report = report := by
  have led := plant_of_crawl finished
  unfold crawl at finished ⊢
  simp only [led] at finished ⊢
  exact Except.ok.inj finished

theorem exists_crawl_of_mem_crawls {disk : Disk} {crawler : Crawler}
    {calls : List (List Text)} {outcome : Outcome} (member : outcome ∈ crawls disk crawler calls) :
    ∃ (earlier : Crawler) (seeds : List Text), outcome = crawl disk earlier seeds := by
  induction calls generalizing crawler with
  | nil => cases member
  | cons seeds others inductionHypothesis =>
      rcases List.mem_cons.mp member with here | later
      · exact ⟨crawler, seeds, here⟩
      · exact inductionHypothesis later

/-- A crawler has found and counted what a search has, which visits each path once. -/
structure Crawler.CountsAs (disk : Disk) (config : Config) (crawler : Crawler)
    (search : Search) : Prop where
  agrees : crawler.Agrees config search
  tallied : search.Tallied disk config
  orderly : search.Orderly

theorem Crawler.CountsAs.crawl {disk : Disk} {config : Config} {crawler : Crawler}
    {search : Search} (counts : crawler.CountsAs disk config search) (seeds : List Text) :
    (Crawl.crawl disk crawler seeds).crawler.CountsAs disk config
        (search.call disk config seeds).2 ∧
      (config.limit = none → search.IsSettled →
        (∃ report, (Crawl.crawl disk crawler seeds).result = .ok report) →
          (search.call disk config seeds).2.IsSettled) := by
  obtain ⟨result, agrees⟩ := counts.agrees.crawl disk seeds
  refine ⟨⟨agrees, counts.tallied.call seeds, counts.orderly.call seeds⟩, ?_⟩
  rintro unlimited settled ⟨report, finished⟩
  exact settled.call unlimited (result.symm.trans finished)

/-- Behind every one of several crawls stands a search with its counts, which has visited
all it has seen if there is no limit and no crawl has failed so far. -/
theorem exists_search_of_crawls {disk : Disk} {config : Config} {crawler : Crawler}
    {search : Search} (counts : crawler.CountsAs disk config search)
    {calls : List (List Text)} {before after : List Outcome} {outcome : Outcome}
    (reached : crawls disk crawler calls = before ++ outcome :: after) :
    ∃ later : Search, outcome.crawler.CountsAs disk config later ∧
      (config.limit = none → search.IsSettled →
        (∀ earlier ∈ before ++ [outcome], ∃ report, earlier.result = .ok report) →
          later.IsSettled) := by
  induction calls generalizing crawler search before with
  | nil =>
      have none := (List.append_eq_nil_iff.mp reached.symm).2
      cases none
  | cons seeds others inductionHypothesis =>
      obtain ⟨next, settledNext⟩ := counts.crawl seeds
      rw [crawls] at reached
      cases before with
      | nil =>
          obtain ⟨rfl, _⟩ := List.cons.inj reached
          exact ⟨_, next, fun unlimited settled finished =>
            settledNext unlimited settled (finished _ (List.mem_singleton_self _))⟩
      | cons first earlier =>
          obtain ⟨rfl, rest⟩ := List.cons.inj reached
          obtain ⟨later, countsLater, settledLater⟩ := inductionHypothesis next rest
          refine ⟨later, countsLater, fun unlimited settled finished => ?_⟩
          refine settledLater unlimited
            (settledNext unlimited settled (finished _ List.mem_cons_self)) ?_
          exact fun outcome member => finished outcome (List.mem_cons_of_mem _ member)

/-- After each of several crawls of a new crawler, its counts are those of its index: as
many documents are indexed as the index has, and as many words as it has positions. No
path that was queued is counted twice, and without a limit all of them are counted
unless a crawl has failed. -/
theorem crawls_counted {disk : Disk} {config : Config} {calls : List (List Text)}
    {before after : List Outcome} {outcome : Outcome}
    (reached : crawls disk (Crawler.new config) calls = before ++ outcome :: after) :
    let crawler := outcome.crawler
    (∀ report, outcome.result = .ok report → crawler.report = report) ∧
      crawler.report.indexed = crawler.index.documentCount ∧
      crawler.report.words = crawler.index.statistics.positions ∧
      crawler.report.indexed + crawler.report.failed ≤ crawler.seen.size ∧
      (config.limit = none →
        (∀ earlier ∈ before ++ [outcome], ∃ report, earlier.result = .ok report) →
          crawler.report.indexed + crawler.report.failed = crawler.seen.size) := by
  intro crawler
  have begun : (Crawler.new config).CountsAs disk config (Search.start Index.empty) :=
    ⟨agrees_new config, Search.tallied_start, Search.orderly_start Index.empty⟩
  obtain ⟨search, ⟨agrees, tallied, orderly⟩, settled⟩ := exists_search_of_crawls begun reached
  have member : outcome ∈ crawls disk (Crawler.new config) calls := by
    rw [reached]
    exact List.mem_append_right _ List.mem_cons_self
  obtain ⟨earlier, seeds, here⟩ := exists_crawl_of_mem_crawls member
  refine ⟨fun report finished => ?_, ?_⟩
  · change outcome.crawler.report = report
    rw [here] at finished ⊢
    exact report_of_crawl finished
  rw [agrees.report, agrees.index, agrees.size_seen]
  refine ⟨(tallied.documentCount_eq orderly).symm, tallied.positions_eq.symm,
    orderly.attempts_le tallied, fun unlimited finished => ?_⟩
  have fresh : (Search.start Index.empty).IsSettled := fun _ member =>
    absurd member (Finset.notMem_empty _)
  exact (settled unlimited fresh finished).attempts_eq orderly tallied

/-- A page that links to a text, a link that leads nowhere, a text without words, and
another name for the page. -/
def aliases : Disk where
  entries :=
    [(Utf8.encode "a.html", .file (Utf8.encode "<a href=c.txt>one")),
      (Utf8.encode "b.txt", .link (Utf8.encode "nowhere")),
      (Utf8.encode "c.txt", .file (Utf8.encode "two three")),
      (Utf8.encode "d.txt", .file []),
      (Utf8.encode "e.html", .link (Utf8.encode "a.html"))]
  current := []

/-- The whole disk as a seed. -/
theorem plant_aliases (progress : Progress)
    (settings : progress.crawler.config = .initial) :
    plant aliases progress ["/"]
      = ([[Utf8.encode "a.html"], [Utf8.encode "b.txt"], [Utf8.encode "c.txt"],
            [Utf8.encode "d.txt"], [Utf8.encode "a.html"]].foldl Progress.enqueue progress,
          none, []) := by
  have found : findings aliases .initial []
      = [.file [Utf8.encode "a.html"], .file [Utf8.encode "b.txt"],
          .file [Utf8.encode "c.txt"], .file [Utf8.encode "d.txt"],
          .file [Utf8.encode "a.html"]] := by
    change inOrder (entryFindings aliases .initial [] aliases.entries) = _
    rw [inOrder_of_pairwise (by decide +kernel)]
    decide +kernel
  have led : seedPath aliases "/" = .ok [] := by decide +kernel
  simp only [plant, led, aliases.isDirectory_top, settings, found, if_true]
  rfl

/-- A first crawl of the page loads the text. A second one of the whole disk meets both
again, and the page under its other name as well. -/
theorem crawls_counted_aliases :
    let first := crawl aliases (Crawler.new .initial) ["a.html"]
    let second := crawl aliases first.crawler ["/"]
    first.result = .ok ⟨2, 0, 3, 1⟩ ∧ second.result = .ok ⟨3, 1, 3, 1⟩ ∧
      second.crawler.index.documentCount = 3 ∧
        second.crawler.index.statistics.positions = 3 ∧ second.crawler.seen.size = 4 := by
  intro first second
  have began : first.result = .ok ⟨2, 0, 3, 1⟩ := by decide +kernel
  have finished : second.result = .ok ⟨3, 1, 3, 1⟩ := by
    have settings : first.crawler.config = .initial := by decide +kernel
    have planted := plant_aliases ⟨first.crawler, []⟩ settings
    simp only [second, crawl, planted]
    decide +kernel
  have both : crawls aliases (Crawler.new .initial) [["a.html"], ["/"]]
      = [first] ++ second :: [] := rfl
  obtain ⟨report, documents, positions, _, all⟩ := crawls_counted both
  have succeeded : ∀ earlier ∈ [first] ++ [second], ∃ report, earlier.result = .ok report := by
    intro earlier member
    rcases List.mem_cons.mp member with rfl | last
    · exact ⟨_, began⟩
    · exact ⟨_, List.mem_singleton.mp last ▸ finished⟩
  have size := all rfl succeeded
  rw [report _ finished] at documents positions size
  exact ⟨began, finished, documents.symm, positions.symm, size.symm⟩

end Concordance.Crawl
