import Concordance.Proofs.Crawl.Search
import Concordance.Proofs.Index.Access

/-!
Contract: crawling in waves is breadth-first search.

A wave takes from the front of the queue what the limit leaves room for. None of its
visits reaches the limit before the last one, and what they discover comes behind the
wave, so that visiting the wave is visiting as many paths one at a time.

Owns:
- the agreement of a crawl under way with a search, and that queueing, visits, waves and
  seeds keep it;
- the paths that waves load;
- calls of a crawler compared with calls of a search;
- the first crawl of a crawler as a run from the files of its seeds.

Does not own: which files a search reaches (`Concordance.Proofs.Crawl.Reach`).
-/

set_option autoImplicit false

namespace Concordance

namespace Crawl

open Concordance.Disk (Path)

theorem foldl_addText_eq (key : Text) (chunks : List Text) (index : Index) (count : Nat) :
    chunks.foldl
        (fun state text =>
          let added := state.1.addText key text
          (added.1, state.2 + added.2))
        (index, count)
      = (chunks.foldl (fun index chunk => (index.addText key chunk).1) index,
          count + wordsIn chunks) := by
  induction chunks generalizing index count with
  | nil => rfl
  | cons chunk others inductionHypothesis =>
      rw [List.foldl_cons, inductionHypothesis, List.foldl_cons, Index.snd_addText]
      simp [wordsIn, Index.total, Nat.add_assoc]

/-- The empty text in front of the chunks only makes the document known. -/
theorem addTexts_texts (index : Index) (key : Text) (document : Document) :
    addTexts index key document.texts
      = (addChunks index key document.chunks, wordsIn document.chunks) := by
  rw [addTexts, Document.texts, List.foldl_cons, Index.addText_nil, foldl_addText_eq,
    Nat.zero_add, Nat.zero_add, addChunks]

theorem path_of_load {disk : Disk} {config : Config} {path : Path} {document : Document}
    (loaded : load disk config path = .ok document) : document.path = path := by
  unfold load at loaded
  split at loaded
  · cases loaded
  · cases loaded
    unfold Document.ofContent
    split <;> rfl

/-! ## Agreement -/

/-- A crawler with these settings has found what a search has found. -/
structure Crawler.Agrees (config : Config) (crawler : Crawler) (search : Search) : Prop where
  settings : crawler.config = config
  index : crawler.index = search.index
  seen : ∀ path, path ∈ crawler.seen ↔ path ∈ search.seen
  report : crawler.report = search.report

/-- A crawl under way has found what a search has found, and has the same paths before
it. -/
structure Progress.Matches (config : Config) (progress : Progress) (search : Search) :
    Prop where
  agrees : progress.crawler.Agrees config search
  queue : progress.queue = search.queue

namespace Search

theorem discover_cons (search : Search) (path : Path) (others : List Path) :
    search.discover (path :: others) = (search.discover [path]).discover others := by
  have split := newPaths_append search.seen [path] others
  rw [List.singleton_append] at split
  simp [discover, split, List.append_assoc]

/-- The search with links queued and counted. -/
def follow (search : Search) (links : List Path) : Search :=
  { search.discover links with
    report := { search.report with
      links := search.report.links + (newPaths search.seen links).length } }

theorem follow_cons (search : Search) (link : Path) (others : List Path) :
    search.follow (link :: others) = (search.follow [link]).follow others := by
  have split := newPaths_append search.seen [link] others
  rw [List.singleton_append] at split
  simp [follow, discover, split, List.append_assoc, Nat.add_assoc]

end Search

namespace Progress.Matches

variable {config : Config} {progress : Progress} {search : Search}

theorem contains_iff (together : progress.Matches config search) (path : Path) :
    progress.crawler.seen.contains path = true ↔ path ∈ search.seen := by
  rw [Std.ExtTreeSet.contains_iff_mem]
  exact together.agrees.seen path

theorem enqueue (together : progress.Matches config search) (path : Path) :
    (progress.enqueue path).Matches config (search.discover [path]) := by
  unfold Progress.enqueue
  by_cases known : path ∈ search.seen
  · rw [if_pos ((together.contains_iff path).mpr known)]
    have same : search.discover [path] = search := by
      simp [Search.discover, newPaths, known]
    rw [same]
    exact together
  · rw [if_neg (mt (together.contains_iff path).mp known)]
    refine ⟨⟨together.agrees.settings, together.agrees.index, fun other => ?_,
      together.agrees.report⟩, ?_⟩
    · have before := together.agrees.seen other
      simp only [Search.discover, Std.ExtTreeSet.mem_insert, Std.compare_eq_iff_eq, before,
        Finset.mem_union, List.toFinset_cons, List.toFinset_nil, Finset.mem_insert,
        Finset.notMem_empty, or_false]
      rw [or_comm, eq_comm]
    · simp [Search.discover, newPaths, known, together.queue]

theorem foldl_enqueue (paths : List Path) (together : progress.Matches config search) :
    (paths.foldl Progress.enqueue progress).Matches config (search.discover paths) := by
  induction paths generalizing progress search with
  | nil =>
      have same : search.discover [] = search := by simp [Search.discover, newPaths]
      rw [same]
      exact together
  | cons path others inductionHypothesis =>
      rw [Search.discover_cons]
      exact inductionHypothesis (together.enqueue path)

theorem follow (together : progress.Matches config search) (link : Path) :
    (progress.follow link).Matches config (search.follow [link]) := by
  have queued := together.enqueue link
  unfold Progress.follow
  by_cases known : link ∈ search.seen
  · rw [if_pos ((together.contains_iff link).mpr known)]
    have same : search.follow [link] = search := by
      simp [Search.follow, Search.discover, newPaths, known]
    rw [same]
    exact together
  · rw [if_neg (mt (together.contains_iff link).mp known)]
    refine ⟨⟨queued.agrees.settings, queued.agrees.index, queued.agrees.seen, ?_⟩,
      queued.queue⟩
    have before := queued.agrees.report
    simp [Search.follow, before, newPaths, known, Search.discover]

theorem foldl_follow (links : List Path) (together : progress.Matches config search) :
    (links.foldl Progress.follow progress).Matches config (search.follow links) := by
  induction links generalizing progress search with
  | nil =>
      have same : search.follow [] = search := by
        simp [Search.follow, Search.discover, newPaths]
      rw [same]
      exact together
  | cons link others inductionHypothesis =>
      rw [Search.follow_cons]
      exact inductionHypothesis (together.follow link)

/-- A visit finds the same on both sides. -/
theorem visit {disk : Disk} (together : progress.Matches config search) (path : Path) :
    (progress.visit (source disk config) path).Matches config
      (search.visit disk config path) := by
  change (progress.absorb (load disk config path)).Matches config _
  unfold Search.visit
  cases loaded : load disk config path with
  | error failure =>
      refine ⟨⟨together.agrees.settings, together.agrees.index, together.agrees.seen, ?_⟩,
        together.queue⟩
      simp [Progress.absorb, Crawler.addFailure, together.agrees.report]
  | ok document =>
      have followed := together.foldl_follow document.links
      have added := addTexts_texts search.index (key path) document
      refine ⟨⟨followed.agrees.settings, ?_, followed.agrees.seen, ?_⟩, followed.queue⟩
      · simp only [Progress.absorb, Crawler.addDocument, path_of_load loaded,
          followed.agrees.index]
        exact congrArg Prod.fst added
      · simp only [Progress.absorb, Crawler.addDocument, path_of_load loaded,
          followed.agrees.index, followed.agrees.report]
        simp [Search.follow, Search.discover, added]

theorem visitAll {disk : Disk} (paths : List Path)
    (together : progress.Matches config search) :
    (visitAll (source disk config) progress paths).1.Matches config
      (paths.foldl (Search.visit disk config) search) := by
  induction paths generalizing progress search with
  | nil => exact together
  | cons path others inductionHypothesis =>
      exact inductionHypothesis (together.visit path)

theorem isFull_eq (together : progress.Matches config search) :
    progress.crawler.isFull = search.isFull config := by
  unfold Crawler.isFull Search.isFull
  rw [together.agrees.settings, together.agrees.report]
  cases config.limit <;> rfl

end Progress.Matches

/-! ## Waves -/

namespace Search

theorem visited_foldl_visit (disk : Disk) (config : Config) (search : Search)
    (paths : List Path) :
    (paths.foldl (visit disk config) search).visited = search.visited ++ paths := by
  induction paths generalizing search with
  | nil => exact (List.append_nil _).symm
  | cons path others inductionHypothesis =>
      rw [List.foldl_cons, inductionHypothesis, visited_visit, List.append_assoc,
        List.singleton_append]

/-- Where the limit leaves room for the front of the queue, a run visits it first. What
is discovered on the way comes behind the rest. -/
theorem run_eq_of_room {disk : Disk} {config : Config} {search : Search}
    (paths rest : List Path) (queue : search.queue = paths ++ rest)
    (room : ∀ limit, config.limit = some limit →
      search.report.indexed + paths.length ≤ limit) :
    search.run disk config
      = run disk config (paths.foldl (visit disk config) (search.requeue rest)) := by
  induction paths generalizing search rest with
  | nil =>
      rw [List.nil_append] at queue
      rw [List.foldl_nil, ← queue]
      rfl
  | cons path others inductionHypothesis =>
      have notFull : search.isFull config = false := by
        unfold isFull
        cases limit : config.limit with
        | none => rfl
        | some most =>
            have bound := room most limit
            simp only [List.length_cons] at bound
            exact decide_eq_false (by omega)
      rw [List.cons_append] at queue
      rw [run_of_queue_eq_cons notFull queue, List.foldl_cons, visit_requeue, visit_requeue,
        List.append_assoc]
      refine inductionHypothesis (rest ++ search.found disk config path) rfl ?_
      intro most limit
      have bound := room most limit
      have step := indexed_visit_le disk config search path
      simp only [List.length_cons] at bound
      change (search.visit disk config path).report.indexed + others.length ≤ most
      omega

end Search

/-- A wave is the front of the queue. -/
theorem Progress.wave_append_dequeue (progress : Progress) :
    progress.wave ++ (progress.dequeue progress.wave.length).queue = progress.queue := by
  unfold Progress.wave Progress.dequeue
  cases progress.crawler.config.limit with
  | none => simp
  | some limit =>
      have whole := List.take_append_drop (limit - progress.crawler.report.indexed)
        progress.queue
      simp only [List.length_take]
      by_cases short : progress.queue.length ≤ limit - progress.crawler.report.indexed
      · rw [Nat.min_eq_right short, List.take_of_length_le short, List.drop_length,
          List.append_nil]
      · rw [Nat.min_eq_left (by omega)]
        exact whole

/-- The limit leaves room for a wave. -/
theorem Progress.length_wave_le (progress : Progress) {limit : Nat}
    (limited : progress.crawler.config.limit = some limit) :
    progress.wave.length ≤ limit - progress.crawler.report.indexed := by
  unfold Progress.wave
  rw [limited]
  exact List.length_take_le _ _

/-- Without a wave there is nothing to visit, or no room for it. -/
theorem Progress.queue_eq_nil_or_isFull {progress : Progress} (wave : progress.wave = []) :
    progress.queue = [] ∨ progress.crawler.isFull = true := by
  unfold Progress.wave at wave
  unfold Crawler.isFull
  cases limit : progress.crawler.config.limit with
  | none =>
      rw [limit] at wave
      exact .inl wave
  | some most =>
      rw [limit] at wave
      rcases List.take_eq_nil_iff.mp wave with none | empty
      · exact .inr (decide_eq_true (Nat.le_of_sub_eq_zero none))
      · exact .inl empty

namespace Progress.Matches

variable {config : Config} {progress : Progress} {search : Search}

theorem run_of_wave_eq_nil (disk : Disk) (together : progress.Matches config search)
    (wave : progress.wave = []) : search.run disk config = search := by
  rcases Progress.queue_eq_nil_or_isFull wave with empty | full
  · exact Search.run_of_queue_eq_nil (together.queue.symm.trans empty)
  · rw [together.isFull_eq] at full
    exact Search.run_of_isFull full

/-- The search that has visited a wave is on the way of the run, and matches the crawl
that has. -/
theorem exists_of_wave (disk : Disk) (together : progress.Matches config search) {first : Path}
    {others : List Path} (wave : progress.wave = first :: others) :
    ∃ reached : Search,
      (Crawl.visitAll (source disk config) (progress.dequeue (others.length + 1))
          (first :: others)).1.Matches config reached ∧
        search.run disk config = reached.run disk config ∧
          reached.visited = search.visited ++ first :: others := by
  have whole := progress.wave_append_dequeue
  rw [wave, together.queue] at whole
  have dequeued : (progress.dequeue (others.length + 1)).Matches config
      (search.requeue (progress.dequeue (others.length + 1)).queue) :=
    ⟨⟨together.agrees.settings, together.agrees.index, together.agrees.seen,
      together.agrees.report⟩, rfl⟩
  refine ⟨_, dequeued.visitAll (first :: others),
    Search.run_eq_of_room _ _ whole.symm fun limit limited => ?_,
    Search.visited_foldl_visit disk config _ _⟩
  rw [← together.agrees.settings] at limited
  have room := progress.length_wave_le limited
  rw [wave, together.agrees.report] at room
  simp only [List.length_cons] at room ⊢
  omega

/-- Waves end where the search ends. -/
theorem agrees_waves (disk : Disk) (together : progress.Matches config search) :
    (waves (source disk config) progress).1.Agrees config (search.run disk config) := by
  fun_induction waves (source disk config) progress generalizing search with
  | case1 progress wave =>
      rw [together.run_of_wave_eq_nil disk wave]
      exact together.agrees
  | case2 progress first others wave count visited records =>
      rename_i full
      obtain ⟨reached, matched, same, _⟩ := together.exists_of_wave disk wave
      rw [same, Search.run_of_isFull (matched.isFull_eq.symm.trans full)]
      exact matched.agrees
  | case3 progress first others wave count visited records room later =>
      rename_i inductionHypothesis
      obtain ⟨reached, matched, same, _⟩ := together.exists_of_wave disk wave
      rw [same]
      exact inductionHypothesis matched

end Progress.Matches

/-! ## Loaded paths -/

theorem remaining_lt_of_wave {source : Source} {progress : Progress} {first : Path}
    {others : List Path} (wave : progress.wave = first :: others) :
    (visitAll source (progress.dequeue (others.length + 1)) (first :: others)).1.remaining
      source < progress.remaining source := by
  have bound := remaining_visitAll_le source (progress.dequeue (others.length + 1))
    (first :: others)
  have queued := List.length_pos_iff.mpr (progress.queue_ne_nil_of_wave wave)
  refine Nat.lt_of_le_of_lt bound ?_
  simp only [Progress.remaining, Progress.dequeue, List.length_drop]
  omega

/-- The paths that are loaded from here on, wave after wave. -/
def loads (source : Source) (progress : Progress) : List Path :=
  match _wave : progress.wave with
  | [] => []
  | first :: others =>
      let visited := visitAll source (progress.dequeue (others.length + 1)) (first :: others)
      if visited.1.crawler.isFull then first :: others
      else first :: others ++ loads source visited.1
termination_by progress.remaining source
decreasing_by exact remaining_lt_of_wave _wave

/-- Waves load what the search visits, in the same order. -/
theorem Progress.Matches.visited_run (disk : Disk) {config : Config} {progress : Progress}
    {search : Search} (together : progress.Matches config search) :
    (search.run disk config).visited
      = search.visited ++ loads (source disk config) progress := by
  fun_induction loads (source disk config) progress generalizing search with
  | case1 progress wave =>
      rw [together.run_of_wave_eq_nil disk wave, List.append_nil]
  | case2 progress first others wave visited =>
      rename_i full
      obtain ⟨reached, matched, same, visited⟩ := together.exists_of_wave disk wave
      rw [same, Search.run_of_isFull (matched.isFull_eq.symm.trans full), visited]
  | case3 progress first others wave visited =>
      rename_i inductionHypothesis
      obtain ⟨reached, matched, same, visited⟩ := together.exists_of_wave disk wave
      rw [same, inductionHypothesis matched, visited, List.append_assoc]

/-! ## Crawls -/

theorem Progress.Matches.plant (disk : Disk) {config : Config} {progress : Progress}
    {search : Search} (seeds : List Text) (together : progress.Matches config search) :
    (plant disk progress seeds).1.Matches config (search.plant disk config seeds).1 ∧
      (plant disk progress seeds).2.1 = (search.plant disk config seeds).2 := by
  induction seeds generalizing progress search with
  | nil => exact ⟨together, rfl⟩
  | cons seed others inductionHypothesis =>
      unfold Crawl.plant Search.plant seedFiles
      cases seedPath disk seed with
      | error failure => exact ⟨together, rfl⟩
      | ok path =>
          dsimp only
          split
          · rw [together.agrees.settings]
            exact inductionHypothesis (together.foldl_enqueue _)
          · exact inductionHypothesis (together.enqueue path)

namespace Crawler.Agrees

variable (disk : Disk) {config : Config} {crawler : Crawler} {search : Search}

/-- A crawler and a search that agree begin a call alike. -/
theorem begin (agrees : crawler.Agrees config search) :
    Progress.Matches config ⟨crawler, []⟩ (search.requeue []) :=
  ⟨⟨agrees.settings, agrees.index, agrees.seen, agrees.report⟩, rfl⟩

/-- A call gives the same on both sides. -/
theorem crawl (agrees : crawler.Agrees config search) (seeds : List Text) :
    (crawl disk crawler seeds).result = (search.call disk config seeds).1 ∧
      (crawl disk crawler seeds).crawler.Agrees config (search.call disk config seeds).2 := by
  obtain ⟨planted, failed⟩ := agrees.begin.plant disk seeds
  unfold Crawl.crawl Search.call
  dsimp only
  rw [failed, agrees.settings]
  cases (Search.plant disk config (search.requeue []) seeds).2 with
  | some failure => exact ⟨rfl, planted.agrees⟩
  | none =>
      have ended := planted.agrees_waves disk
      exact ⟨congrArg Except.ok ended.report, ended⟩

end Crawler.Agrees

theorem agrees_withIndex (config : Config) (index : Index) :
    (Crawler.withIndex config index).Agrees config (Search.start index) where
  settings := rfl
  index := rfl
  seen := fun path => by simp [Crawler.withIndex, Search.start]
  report := rfl

/-- What each of several crawls of one crawler gives. -/
def crawls (disk : Disk) (crawler : Crawler) : List (List Text) → List Outcome
  | [] => []
  | seeds :: others =>
      let outcome := crawl disk crawler seeds
      outcome :: crawls disk outcome.crawler others

theorem Crawler.Agrees.crawls (disk : Disk) {config : Config} {crawler : Crawler}
    {search : Search} (agrees : crawler.Agrees config search) (calls : List (List Text)) :
    List.Forall₂
      (fun outcome reached =>
        outcome.result = reached.1 ∧ outcome.crawler.Agrees config reached.2)
      (crawls disk crawler calls) (search.calls disk config calls) := by
  induction calls generalizing crawler search with
  | nil => exact .nil
  | cons seeds others inductionHypothesis =>
      have call := agrees.crawl disk seeds
      exact .cons call (inductionHypothesis call.2)

/-- Every crawl gives the report or the failure that a search one document at a time
gives, and leaves the same index, the same paths seen and the same counts, whatever the
settings, the index at the beginning and the crawls before it. -/
theorem crawls_agree_with_searches (disk : Disk) (config : Config) (index : Index)
    (calls : List (List Text)) :
    List.Forall₂
      (fun outcome reached =>
        outcome.result = reached.1 ∧ outcome.crawler.Agrees config reached.2)
      (crawls disk (.withIndex config index) calls)
      ((Search.start index).calls disk config calls) :=
  (agrees_withIndex config index).crawls disk calls

/-! ## First crawls -/

/-- The paths that the first crawl of a crawler loads, in order. -/
def pathsLoaded (disk : Disk) (config : Config) (seeds : List Text) : List Path :=
  loads (source disk config) (plant disk ⟨Crawler.new config, []⟩ seeds).1

/-- The search of a first crawl, at its end. -/
def Search.ofSeeds (disk : Disk) (config : Config) (seeds : List Text) : Search :=
  ((start Index.empty).discover (filesAhead disk config seeds)).run disk config

section First

variable {disk : Disk} {config : Config} {seeds : List Text}

theorem plant_of_crawl {crawler : Crawler} {report : Report}
    (finished : (crawl disk crawler seeds).result = .ok report) :
    (plant disk ⟨crawler, []⟩ seeds).2.1 = none := by
  unfold crawl at finished
  cases failed : (plant disk ⟨crawler, []⟩ seeds).2.1 with
  | none => rfl
  | some failure =>
      simp only [failed] at finished
      cases finished

theorem agrees_new (config : Config) :
    (Crawler.new config).Agrees config (Search.start Index.empty) :=
  agrees_withIndex config Index.empty

/-- A first crawl whose seeds all lead somewhere ends where its search ends. -/
theorem crawl_new_of_plant
    (led : ((Search.start Index.empty).plant disk config seeds).2 = none) :
    let ended := Search.ofSeeds disk config seeds
    (crawl disk (Crawler.new config) seeds).result = .ok ended.report ∧
      (crawl disk (Crawler.new config) seeds).crawler.Agrees config ended ∧
        ended.visited = pathsLoaded disk config seeds := by
  obtain ⟨matched, _⟩ := (agrees_new config).begin.plant disk seeds
  obtain ⟨result, agrees⟩ := (agrees_new config).crawl disk seeds
  rw [Search.fst_plant] at matched
  have called : (Search.start Index.empty).call disk config seeds
      = (.ok (Search.ofSeeds disk config seeds).report, Search.ofSeeds disk config seeds) :=
    Search.call_of_plant (Prod.ext (Search.fst_plant _ seeds) led)
  rw [called] at result agrees
  exact ⟨result, agrees, matched.visited_run disk⟩

theorem plant_start_of_crawl {report : Report}
    (finished : (crawl disk (Crawler.new config) seeds).result = .ok report) :
    ((Search.start Index.empty).plant disk config seeds).2 = none := by
  obtain ⟨_, failed⟩ := (agrees_new config).begin.plant disk seeds
  exact failed.symm.trans (plant_of_crawl finished)

end First

end Crawl

end Concordance
