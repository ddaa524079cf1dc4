import Concordance.Proofs.Crawl.Waves
import Concordance.Proofs.Disk.Locate

/-!
Contract: a crawl without a limit visits what can be reached, once, and ends.

Every path that is discovered is queued once and visited later, so that at the end the
visited paths are closed under links. The paths discovered through links are files of the
disk, of which there are finitely many.

Owns:
- links between files, and what can be reached from seeds;
- the invariant of a search that follows every link;
- the visits, the counts and the index of a whole crawl.

Does not own: the search itself (`Concordance.Proofs.Crawl.Search`).
-/

set_option autoImplicit false

namespace Concordance.Crawl

open Concordance.Disk (Path)

/-! ## What can be reached -/

/-- Whether the file at a path can be read. -/
def isReadable (disk : Disk) (path : Path) : Bool :=
  match disk.read (Disk.Path.bytes path) with
  | .ok _ => true
  | .error _ => false

/-- A link of the document at a path, which can be read and holds markup, leads to a
file. -/
def LinksTo (disk : Disk) (path target : Path) : Prop :=
  isMarkup path = true ∧
    ∃ content, disk.read (Disk.Path.bytes path) = .ok content ∧
      ∃ link ∈ Html.links (Utf8.decodeLossy content), target? disk path link = some target

/-- A path is one of the files that seeds stand for. -/
def IsSeeded (disk : Disk) (config : Config) (seeds : List Text) (path : Path) : Prop :=
  ∃ seed ∈ seeds, ∃ files, seedFiles disk config seed = .ok files ∧ path ∈ files

/-- Seeds lead to a path, at once or through links. -/
inductive Reached (disk : Disk) (config : Config) (seeds : List Text) : Path → Prop where
  | seed {path : Path} (seeded : IsSeeded disk config seeds path) :
      Reached disk config seeds path
  | link {path target : Path} (reached : Reached disk config seeds path)
      (linked : LinksTo disk path target) : Reached disk config seeds target

/-- The texts of the document at a path, each with the key of the document. The empty
one in front makes the document known even if it has no chunks. -/
def textsAt (disk : Disk) (config : Config) (path : Path) : List (Text × Text) :=
  match load disk config path with
  | .error _ => []
  | .ok document => (key path, []) :: document.chunks.map fun chunk => (key path, chunk)

/-! ## Loading -/

theorem isReadable_iff (disk : Disk) (config : Config) (path : Path) :
    isReadable disk path = true ↔ ∃ document, load disk config path = .ok document := by
  unfold isReadable load
  cases disk.read (Disk.Path.bytes path) <;> simp

/-- The links of a loaded document are those that it has on the disk, if settings ask
for them. -/
theorem mem_links_iff {disk : Disk} {config : Config} {path target : Path}
    {document : Document} (follows : config.followLinks = true)
    (strips : config.stripMarkup = true) (loaded : load disk config path = .ok document) :
    target ∈ document.links ↔ LinksTo disk path target := by
  unfold load at loaded
  unfold LinksTo
  cases read : disk.read (Disk.Path.bytes path) with
  | error fault =>
      rw [read] at loaded
      cases loaded
  | ok content =>
      rw [read] at loaded
      cases loaded
      cases markup : isMarkup path with
      | false => simp [Document.ofContent, markup]
      | true => simp [Document.ofContent, markup, follows, strips, Html.content]

theorem not_linksTo_of_load {disk : Disk} {config : Config} {path target : Path}
    {failure : Failure} (loaded : load disk config path = .error failure) :
    ¬LinksTo disk path target := by
  rintro ⟨_, content, read, _⟩
  unfold load at loaded
  rw [read] at loaded
  cases loaded

theorem ofTexts_append (first second : List (Text × Text)) :
    Index.ofTexts (first ++ second)
      = second.foldl (fun index entry => (index.addText entry.1 entry.2).1)
          (Index.ofTexts first) :=
  List.foldl_append

theorem foldl_texts (index : Index) (key : Text) (chunks : List Text) :
    ((key, []) :: chunks.map fun chunk => (key, chunk)).foldl
        (fun index entry => (index.addText entry.1 entry.2).1) index
      = addChunks index key chunks := by
  rw [List.foldl_cons, Index.addText_nil, List.foldl_map, addChunks]

/-! ## What a visit counts -/

namespace Search

section Visit

variable (disk : Disk) (config : Config) (search : Search) (path : Path)

theorem indexed_visit :
    (search.visit disk config path).report.indexed
      = search.report.indexed + if isReadable disk path then 1 else 0 := by
  have readable := isReadable_iff disk config path
  unfold visit
  cases loaded : load disk config path with
  | error failure => simp [readable, loaded]
  | ok document => simp [readable, loaded]

theorem failed_visit :
    (search.visit disk config path).report.failed
      = search.report.failed + if !isReadable disk path then 1 else 0 := by
  have readable := isReadable_iff disk config path
  unfold visit
  cases loaded : load disk config path with
  | error failure => simp [readable, loaded]
  | ok document => simp [readable, loaded]

/-- The words that a visit counts are those of the texts that it adds. -/
theorem words_visit :
    (search.visit disk config path).report.words
      = search.report.words
        + Index.total ((textsAt disk config path).map fun entry => entry.2.words.length) := by
  unfold visit textsAt
  cases load disk config path with
  | error failure => rfl
  | ok document =>
      have none : Text.words [] = [] := by simp [Text.words, Text.wordsFrom]
      simp [wordsIn, Index.total, none, Function.comp_def]

theorem index_visit :
    (search.visit disk config path).index
      = (textsAt disk config path).foldl
          (fun index entry => (index.addText entry.1 entry.2).1) search.index := by
  unfold visit textsAt
  cases load disk config path with
  | error failure => rfl
  | ok document => exact (foldl_texts search.index (key path) document.chunks).symm

end Visit

end Search

/-! ## The invariant -/

namespace Search

/-- A search that follows every link has visited and queued each path it has seen once;
these paths can be reached, and among them are the files of the seeds and whatever a
visited document links to. Its counts and its index are those of the visited paths.
`planted` paths were queued at the beginning. -/
structure Explored (disk : Disk) (config : Config) (seeds : List Text) (planted : Nat)
    (search : Search) : Prop where
  distinct : (search.visited ++ search.queue).Nodup
  seen : ∀ path, path ∈ search.seen ↔ path ∈ search.visited ++ search.queue
  reached : ∀ path ∈ search.seen, Reached disk config seeds path
  seeded : ∀ path, IsSeeded disk config seeds path → path ∈ search.seen
  closed : ∀ path ∈ search.visited, ∀ target, LinksTo disk path target →
    target ∈ search.seen
  indexed : search.report.indexed = search.visited.countP (isReadable disk)
  failed : search.report.failed = search.visited.countP fun path => !isReadable disk path
  links : search.report.links + planted = (search.visited ++ search.queue).length
  index : search.index = Index.ofTexts (search.visited.flatMap (textsAt disk config))

variable {disk : Disk} {config : Config} {seeds : List Text} {planted : Nat}
  {search : Search}

/-- After a visit the links of the document are seen. Where it cannot be read, it has
none. -/
theorem mem_seen_visit_iff (follows : config.followLinks = true)
    (strips : config.stripMarkup = true) (search : Search) (path target : Path) :
    target ∈ (search.visit disk config path).seen ↔
      target ∈ search.seen ∨ LinksTo disk path target := by
  unfold visit
  cases loaded : load disk config path with
  | error failure => exact (or_iff_left (not_linksTo_of_load loaded)).symm
  | ok document =>
      change target ∈ search.seen ∪ document.links.toFinset ↔ _
      rw [Finset.mem_union, List.mem_toFinset, mem_links_iff follows strips loaded]

/-- A visit keeps the invariant. The links of the document are queued unless they were
seen, so that they are seen afterwards. -/
theorem Explored.visit (explored : search.Explored disk config seeds planted)
    (follows : config.followLinks = true) (strips : config.stripMarkup = true)
    {path : Path} {others : List Path} (queue : search.queue = path :: others) :
    ((search.requeue others).visit disk config path).Explored disk config seeds planted := by
  have onTrail : ∀ target, target ∈ search.seen ↔ target ∈ search.trail := explored.seen
  have trail := trail_visit disk config queue
  have here : path ∈ search.seen := by
    rw [explored.seen, queue]
    simp
  have linked : ∀ target, target ∈ ((search.requeue others).visit disk config path).seen ↔
      target ∈ search.seen ∨ LinksTo disk path target :=
    mem_seen_visit_iff follows strips (search.requeue others) path
  refine ⟨?_, fun target => ?_, fun target member => ?_, fun target seeded => ?_,
    fun visited member target reached => ?_, ?_, ?_, ?_, ?_⟩
  · change ((search.requeue others).visit disk config path).trail.Nodup
    rw [trail]
    -- What has been seen is not queued again, and all that is queued has been seen.
    refine List.nodup_append.mpr ⟨explored.distinct, nodup_found disk config search path, ?_⟩
    rintro known earlier _ new rfl
    exact notMem_seen_of_mem_found new ((onTrail known).mpr earlier)
  · change _ ↔ target ∈ ((search.requeue others).visit disk config path).trail
    rw [trail, List.mem_append, ← onTrail]
    exact mem_seen_visit disk config (search.requeue others) path target
  · rcases (linked target).mp member with earlier | reached
    · exact explored.reached target earlier
    · exact .link (explored.reached path here) reached
  · exact (linked target).mpr (.inl (explored.seeded target seeded))
  · rw [visited_visit] at member
    rcases List.mem_append.mp member with earlier | last
    · exact (linked target).mpr (.inl (explored.closed visited earlier target reached))
    · rw [List.mem_singleton.mp last] at reached
      exact (linked target).mpr (.inr reached)
  · rw [indexed_visit, visited_visit, List.countP_append, List.countP_singleton]
    exact congrArg (· + _) explored.indexed
  · rw [failed_visit, visited_visit, List.countP_append, List.countP_singleton]
    exact congrArg (· + _) explored.failed
  · have counted : (search.requeue others).report.links + planted = search.trail.length :=
      explored.links
    change _ = ((search.requeue others).visit disk config path).trail.length
    rw [links_visit, trail, List.length_append, ← counted]
    exact Nat.add_right_comm _ _ _
  · rw [index_visit, visited_visit, List.flatMap_append, ofTexts_append, List.flatMap_singleton]
    exact congrArg (List.foldl _ · _) explored.index

/-- Without a limit a run keeps the invariant and empties the queue. -/
theorem Explored.run (explored : search.Explored disk config seeds planted)
    (unlimited : config.limit = none) (follows : config.followLinks = true)
    (strips : config.stripMarkup = true) :
    (search.run disk config).Explored disk config seeds planted ∧
      (search.run disk config).queue = [] :=
  ⟨run_keeps (fun _ _ _ _ queued kept => kept.visit follows strips queued) search explored,
    queue_run unlimited search⟩

/-! ## Seeds -/

/-- Seeds that all lead somewhere are all in front of the first that does not. -/
theorem mem_filesAhead_iff {search : Search} {seeds : List Text} {path : Path}
    (led : (search.plant disk config seeds).2 = none) :
    path ∈ filesAhead disk config seeds ↔ IsSeeded disk config seeds path := by
  induction seeds generalizing search with
  | nil => simp [filesAhead, IsSeeded]
  | cons seed others inductionHypothesis =>
      rw [plant] at led
      rw [filesAhead]
      cases found : seedFiles disk config seed with
      | error failure =>
          rw [found] at led
          cases led
      | ok files =>
          rw [found] at led
          rw [List.mem_append, inductionHypothesis led]
          simp [IsSeeded, found]

/-- The files of seeds in the queue of a new search meet the invariant. -/
theorem explored_discover {files : List Path}
    (seeded : ∀ path, path ∈ files ↔ IsSeeded disk config seeds path) :
    ((start Index.empty).discover files).Explored disk config seeds
      ((start Index.empty).discover files).queue.length where
  distinct := by simpa [discover, start] using nodup_newPaths ∅ files
  seen := fun path => by simp [discover, start, mem_newPaths]
  reached := fun path member => by
    have listed : path ∈ files := by simpa [discover, start] using member
    exact .seed ((seeded path).mp listed)
  seeded := fun path isSeeded => by
    simpa [discover, start] using (seeded path).mpr isSeeded
  closed := fun path member => by cases member
  indexed := rfl
  failed := rfl
  links := by simp [discover, start]
  index := rfl

theorem Explored.mem_visited_iff (explored : search.Explored disk config seeds planted)
    (empty : search.queue = []) (path : Path) :
    path ∈ search.visited ↔ Reached disk config seeds path := by
  have seen : ∀ other, other ∈ search.seen ↔ other ∈ search.visited := fun other => by
    rw [explored.seen, empty, List.append_nil]
  constructor
  · intro member
    exact explored.reached path ((seen path).mpr member)
  · intro reached
    -- Nothing is left in the queue, so the visited paths are closed under links.
    induction reached with
    | seed seeded => exact (seen _).mp (explored.seeded _ seeded)
    | link _ linked inductionHypothesis =>
        exact (seen _).mp (explored.closed _ inductionHypothesis _ linked)

end Search

/-! ## Files and their other names -/

theorem mem_inOrder {found : List (Disk.Name × List Finding)} {finding : Finding} :
    finding ∈ inOrder found ↔ ∃ entry ∈ found, finding ∈ entry.2 := by
  simp [inOrder, List.mem_mergeSort]

/-- Entries that are in the order of their names are looked at as they come. -/
theorem inOrder_of_pairwise {found : List (Disk.Name × List Finding)}
    (sorted : found.Pairwise fun left right => left.1 ≤ right.1) :
    inOrder found = found.flatMap (·.2) := by
  rw [inOrder, List.mergeSort_of_pairwise (sorted.imp decide_eq_true)]

theorem mem_files_of_locate {disk : Disk} {bytes : Bytes} {path : Path}
    (located : disk.locate bytes = .ok path) (notDirectory : ¬disk.isDirectory path = true) :
    path ∈ disk.files := by
  have settled := Disk.isSettled_of_locate located
  rw [Disk.isSettled, Bool.or_eq_true] at settled
  exact Disk.mem_files_of_isFile (settled.resolve_right notDirectory)

theorem exists_locate_of_seedPath {disk : Disk} {seed : Text} {path : Path}
    (led : seedPath disk seed = .ok path) :
    ∃ written, disk.locate written = .ok path := by
  unfold seedPath at led
  split at led
  · cases led
  · rename_i written _
    refine ⟨written, ?_⟩
    split at led
    · cases led
    · cases led
      assumption

/-- A link that is picked up leads to a file, or it cannot be read. -/
theorem mem_files_of_linkFinding? {disk : Disk} {config : Config} {path target : Path}
    (found : linkFinding? disk config path = some (.file target))
    (readable : isReadable disk target = true) : target ∈ disk.files := by
  unfold linkFinding? at found
  cases located : disk.locate (Disk.Path.bytes path) with
  | ok place =>
      simp only [located] at found
      split at found
      · cases found
      · rename_i notDirectory
        split at found
        · cases found
          exact mem_files_of_locate located notDirectory
        · cases found
  | error fault =>
      simp only [located] at found
      split at found
      · cases found
        obtain ⟨other, unread⟩ := Disk.read_of_locate located
        rw [isReadable, unread] at readable
        cases readable
      · cases found

section Findings

variable {disk : Disk} {config : Config} {target : Path}

mutual

/-- Whatever is picked up at a node is a file of the disk, or cannot be read. -/
theorem mem_files_of_nodeFindings (readable : isReadable disk target = true) (path : Path)
    (node : Disk.Node) (below : ∀ rest ∈ node.files, path ++ rest ∈ disk.files)
    (found : .file target ∈ nodeFindings disk config path node) : target ∈ disk.files := by
  cases node with
  | file content
  | guarded content =>
      rw [nodeFindings] at found
      split at found
      · cases List.mem_singleton.mp found
        simpa [Disk.Node.files] using below
      · cases found
  | link text =>
      rw [nodeFindings, Option.mem_toList] at found
      exact mem_files_of_linkFinding? found readable
  | directory entries =>
      rw [nodeFindings] at found
      obtain ⟨entry, listed, within⟩ := mem_inOrder.mp found
      rw [Disk.Node.files] at below
      exact mem_files_of_entryFindings readable path entries below listed within

theorem mem_files_of_entryFindings (readable : isReadable disk target = true) (path : Path)
    (entries : Disk.Entries)
    (below : ∀ rest ∈ Disk.entriesFiles entries, path ++ rest ∈ disk.files)
    {entry : Disk.Name × List Finding}
    (listed : entry ∈ entryFindings disk config path entries)
    (within : .file target ∈ entry.2) : target ∈ disk.files := by
  cases entries with
  | nil => cases listed
  | cons first others =>
      rw [entryFindings] at listed
      simp only [Disk.entriesFiles, List.mem_append, List.mem_map] at below
      rcases List.mem_cons.mp listed with rfl | later
      · refine mem_files_of_nodeFindings readable (path ++ [first.1]) first.2 ?_ within
        intro rest member
        rw [List.append_assoc]
        exact below (first.1 :: rest) (.inl ⟨rest, member, rfl⟩)
      · exact mem_files_of_entryFindings readable path others
          (fun rest member => below rest (.inr member)) later within

end

theorem mem_files_of_findings (readable : isReadable disk target = true) {path : Path}
    (isDirectory : disk.isDirectory path = true)
    (member : target ∈ (findings disk config path).filterMap Finding.file?) :
    target ∈ disk.files := by
  obtain ⟨entries, here⟩ := Disk.exists_of_isDirectory isDirectory
  obtain ⟨finding, found, picked⟩ := List.mem_filterMap.mp member
  cases finding with
  | passedOver other => cases picked
  | file other =>
      cases picked
      rw [findings, here] at found
      obtain ⟨entry, listed, within⟩ := mem_inOrder.mp found
      exact mem_files_of_entryFindings readable path entries
        (fun rest below => Disk.mem_nodeFiles_of_at? here (by rwa [Disk.Node.files])) listed
        within

/-- A file that a seed stands for is a file of the disk itself and not a link to one,
unless it cannot be read. -/
theorem IsSeeded.mem_files {seeds : List Text} (seeded : IsSeeded disk config seeds target)
    (readable : isReadable disk target = true) : target ∈ disk.files := by
  obtain ⟨seed, _, files, found, member⟩ := seeded
  unfold seedFiles at found
  cases led : seedPath disk seed with
  | error failure =>
      rw [led] at found
      cases found
  | ok path =>
      rw [led] at found
      cases found
      split at member
      · rename_i isDirectory
        exact mem_files_of_findings readable isDirectory member
      · rename_i notDirectory
        rw [List.mem_singleton.mp member]
        obtain ⟨written, located⟩ := exists_locate_of_seedPath led
        exact mem_files_of_locate located notDirectory

end Findings

/-! ## Whole crawls -/

theorem Reached.isSeeded_or_mem_files {disk : Disk} {config : Config} {seeds : List Text}
    {path : Path} (reached : Reached disk config seeds path) :
    IsSeeded disk config seeds path ∨ path ∈ disk.files := by
  cases reached with
  | seed seeded => exact .inl seeded
  | link _ linked =>
      obtain ⟨_, _, _, _, _, found⟩ := linked
      exact .inr (Disk.mem_files_of_isFile (isFile_of_target? found))

section Fresh

variable {disk : Disk} {config : Config} {seeds : List Text} {report : Report}

/-- The first crawl of a crawler ends where an explored search ends, and loads what that
search visits. All files of its seeds are queued at the beginning. -/
theorem exists_explored_of_crawl (unlimited : config.limit = none)
    (follows : config.followLinks = true) (strips : config.stripMarkup = true)
    (finished : (crawl disk (Crawler.new config) seeds).result = .ok report) :
    let planted := (plant disk ⟨Crawler.new config, []⟩ seeds).1
    (∀ path, IsSeeded disk config seeds path → path ∈ planted.queue) ∧
      ∃ search : Search, search.Explored disk config seeds planted.queue.length ∧
        search.queue = [] ∧ search.visited = loads (source disk config) planted ∧
          report = search.report ∧
            (crawl disk (Crawler.new config) seeds).crawler.index = search.index := by
  intro planted
  have led := plant_start_of_crawl finished
  obtain ⟨result, ended, visited⟩ := crawl_new_of_plant led
  obtain ⟨matched, _⟩ := (agrees_new config).begin.plant disk seeds
  rw [Search.fst_plant] at matched
  have seeded : ∀ path, path ∈ filesAhead disk config seeds
      ↔ IsSeeded disk config seeds path := fun path => Search.mem_filesAhead_iff led
  have queue : planted.queue = newPaths ∅ (filesAhead disk config seeds) :=
    matched.queue
  obtain ⟨explored, empty⟩ :=
    (Search.explored_discover seeded).run unlimited follows strips
  refine ⟨fun path isSeeded => ?_, Search.ofSeeds disk config seeds, ?_, empty, visited, ?_,
    ended.index⟩
  · rw [queue, mem_newPaths]
    exact ⟨(seeded path).mpr isSeeded, Finset.notMem_empty path⟩
  · rw [queue]
    exact explored
  · exact Except.ok.inj (finished.symm.trans result)

/-- A crawl without a limit that follows links loads what can be reached from its seeds,
each path once, and so at most the paths queued at first and the files of the disk. What
it reads are files themselves under the one path each of them has on the disk, whatever
links lead to it. The crawl counts what it could read, what it could not read and what
it found through links, and its index holds the texts of every document that it could
read, once. -/
theorem crawl_loads_reached_once (unlimited : config.limit = none)
    (follows : config.followLinks = true) (strips : config.stripMarkup = true)
    (finished : (crawl disk (Crawler.new config) seeds).result = .ok report) :
    let planted := (plant disk ⟨Crawler.new config, []⟩ seeds).1
    let loaded := loads (source disk config) planted
    (∀ path, path ∈ loaded ↔ Reached disk config seeds path) ∧
      loaded.Nodup ∧
      (∀ path ∈ loaded, isReadable disk path = true → path ∈ disk.files) ∧
      loaded.length ≤ planted.queue.length + disk.files.length ∧
      report.indexed = loaded.countP (isReadable disk) ∧
      report.failed = loaded.countP (fun path => !isReadable disk path) ∧
      report.links + planted.queue.length = loaded.length ∧
      (crawl disk (Crawler.new config) seeds).crawler.index
        = Index.ofTexts (loaded.flatMap (textsAt disk config)) := by
  intro planted loaded
  obtain ⟨queued, search, explored, empty, visited, rfl, index⟩ :=
    exists_explored_of_crawl unlimited follows strips finished
  have whole : search.visited ++ search.queue = loaded := by
    rw [empty, List.append_nil, visited]
  have distinct : loaded.Nodup := whole ▸ explored.distinct
  have reached : ∀ path, path ∈ loaded ↔ Reached disk config seeds path := fun path => by
    rw [← explored.mem_visited_iff empty, visited]
  refine ⟨reached, distinct, ?_, ?_, ?_, ?_, ?_, ?_⟩
  · intro path member readable
    rcases ((reached path).mp member).isSeeded_or_mem_files with seeded | file
    · exact seeded.mem_files readable
    · exact file
  · rw [← List.length_append]
    refine (distinct.subperm fun path member => ?_).length_le
    rw [List.mem_append]
    exact ((reached path).mp member).isSeeded_or_mem_files.imp (queued path) id
  · rw [explored.indexed, visited]
  · rw [explored.failed, visited]
  · rw [explored.links, whole]
  · rw [index, explored.index, visited]

end Fresh

/-- Two pages that link to each other, and another name for the first of them. -/
def twoPages : Disk where
  entries :=
    [(Utf8.encode "a.html", .file (Utf8.encode "<a href=b.html>one")),
      (Utf8.encode "b.html", .file (Utf8.encode "<a href=a.html>two")),
      (Utf8.encode "c.html", .link (Utf8.encode "a.html"))]
  current := []

/-- Both seeds are the first page, which the second one links back to. -/
theorem crawl_twoPages :
    let seeds : List Text := ["a.html", "c.html"]
    let loaded := loads (source twoPages .initial)
      (plant twoPages ⟨Crawler.new .initial, []⟩ seeds).1
    (crawl twoPages (Crawler.new .initial) seeds).result = .ok ⟨2, 0, 2, 1⟩ ∧
      (∀ path, path ∈ loaded ↔ Reached twoPages .initial seeds path) ∧ loaded.Nodup ∧
        loaded.countP (isReadable twoPages) = 2 := by
  intro seeds loaded
  have finished : (crawl twoPages (Crawler.new .initial) seeds).result
      = .ok ⟨2, 0, 2, 1⟩ := by
    decide +kernel
  obtain ⟨reached, distinct, _, _, indexed, _⟩ :=
    crawl_loads_reached_once rfl rfl rfl finished
  exact ⟨finished, reached, distinct, indexed.symm⟩

/-- A file that may not be read is counted as failed, and one that may only be read is
indexed. -/
example :
    let disk : Disk := ⟨[(Utf8.encode "a.txt", .guarded none),
      (Utf8.encode "b.txt", .guarded (some (Utf8.encode "alpha")))], []⟩
    (crawl disk (Crawler.new .initial) ["a.txt", "b.txt"]).result = .ok ⟨1, 1, 1, 0⟩ := by
  decide +kernel

end Concordance.Crawl
