import Concordance.Proofs.Crawl.Limit
import Concordance.Proofs.Index.Merging

/-!
Contract: what it changes to keep the markup of documents.

The links of a document are found while its markup is stripped. A document whose markup is kept
has none, so that a crawl that keeps markup visits the files of its seeds and no others.

Owns:
- settings that differ in whether markup is stripped, and what they load;
- two searches side by side, one of which finds nothing;
- the crawls with and without markup: what they have in common, and when they agree.

Does not own: the links of documents (`Concordance.Html.Content`).
-/

set_option autoImplicit false

namespace Concordance.Crawl

open Concordance.Disk (Path)

/-! ## Settings that keep markup -/

/-- The settings that strip markup, or do not. -/
def Config.withStripping (config : Config) (stripMarkup : Bool) : Config :=
  { config with stripMarkup }

/-- Documents have links only if settings ask for both. -/
theorem links_eq_nil_of_load {disk : Disk} {config : Config}
    (without : config.followLinks = false ∨ config.stripMarkup = false) {path : Path}
    {document : Document} (loaded : load disk config path = .ok document) :
    document.links = [] := by
  unfold load at loaded
  split at loaded
  · cases loaded
  · cases loaded
    unfold Document.ofContent
    split
    · rename_i strips
      rcases without with follow | keep
      · simp [follow]
      · simp [keep] at strips
    · rfl

/-- Only documents in markup load differently. -/
theorem load_withStripping (disk : Disk) (config : Config) (strips : Bool) {path : Path}
    (plain : isMarkup path = false) :
    load disk (config.withStripping strips) path = load disk config path := by
  unfold load Document.ofContent
  simp only [plain, Bool.false_and, Bool.false_eq_true, if_false]

theorem textsAt_withStripping (disk : Disk) (config : Config) (strips : Bool) {path : Path}
    (plain : isMarkup path = false) :
    textsAt disk (config.withStripping strips) path = textsAt disk config path := by
  unfold textsAt
  rw [load_withStripping disk config strips plain]

theorem filesAhead_withStripping (disk : Disk) (config : Config) (strips : Bool)
    (seeds : List Text) :
    filesAhead disk (config.withStripping strips) seeds = filesAhead disk config seeds := by
  apply filesAhead_congr
  rfl

theorem Search.plant_withStripping (disk : Disk) (config : Config) (strips : Bool)
    (search : Search) (seeds : List Text) :
    search.plant disk (config.withStripping strips) seeds = search.plant disk config seeds := by
  apply plant_congr
  rfl

/-! ## Runs side by side -/

namespace Search

variable {disk : Disk} {config : Config}

theorem found_eq_nil (without : config.followLinks = false ∨ config.stripMarkup = false)
    (search : Search) (path : Path) : search.found disk config path = [] := by
  unfold found
  cases loaded : load disk config path with
  | error failure => rfl
  | ok document =>
      change newPaths search.seen document.links = []
      rw [links_eq_nil_of_load without loaded]
      rfl

/-- Settings under which documents have no links leave the number of links as it is. -/
theorem links_run_eq (without : config.followLinks = false ∨ config.stripMarkup = false)
    (search : Search) : (search.run disk config).report.links = search.report.links := by
  refine run_keeps (motive := fun later => later.report.links = search.report.links) ?_ search rfl
  intro later path others _ _ same
  rw [links_visit, found_eq_nil without, ← same]
  rfl

theorem links_le_run (search : Search) :
    search.report.links ≤ (search.run disk config).report.links := by
  refine run_keeps (motive := fun later => search.report.links ≤ later.report.links) ?_ search
    (Nat.le_refl _)
  intro later path others _ _ fewer
  rw [links_visit]
  exact Nat.le_add_right_of_le fewer

theorem visited_isPrefix_run (search : Search) :
    search.visited <+: (search.run disk config).visited := by
  refine run_keeps (motive := fun later => search.visited <+: later.visited) ?_ search
    (List.prefix_refl _)
  intro later path others _ _ front
  rw [visited_visit]
  exact front.trans (List.prefix_append _ _)

/-- A search has come as far as another one, and has more in its queue: one path for every link
that it has counted. -/
structure Accompanies (search other : Search) : Prop where
  visited : search.visited = other.visited
  indexed : search.report.indexed = other.report.indexed
  queue : ∃ more, search.queue = other.queue ++ more ∧ more.length = search.report.links

section Accompanies

variable {search other : Search} {otherConfig : Config}

/-- Searches stay side by side if only the one with more in its queue finds something. -/
theorem Accompanies.visit (together : search.Accompanies other)
    (without : otherConfig.followLinks = false ∨ otherConfig.stripMarkup = false)
    {path : Path} {others : List Path} (queued : other.queue = path :: others) :
    ∃ more, search.queue = path :: more ∧
      ((search.requeue more).visit disk config path).Accompanies
        ((other.requeue others).visit disk otherConfig path) := by
  obtain ⟨more, longer, counted⟩ := together.queue
  rw [queued, List.cons_append] at longer
  refine ⟨others ++ more, longer, ?_, ?_, ?_⟩
  · rw [visited_visit, visited_visit]
    exact congrArg (· ++ [path]) together.visited
  · rw [indexed_visit, indexed_visit]
    exact congrArg (· + _) together.indexed
  · refine ⟨more ++ (search.requeue (others ++ more)).found disk config path, ?_, ?_⟩
    · rw [queue_visit, queue_visit, found_eq_nil without, List.append_nil, ← List.append_assoc]
      rfl
    · rw [links_visit, List.length_append, counted]
      rfl

theorem Accompanies.isFull_eq (together : search.Accompanies other)
    (sameLimit : config.limit = otherConfig.limit) :
    search.isFull config = other.isFull otherConfig := by
  rw [isFull, isFull, sameLimit, together.indexed]

/-- Of two runs side by side, the one that finds nothing visits the front of what the other one
visits, and all of it if the other one finds nothing either. -/
theorem Accompanies.run (together : search.Accompanies other)
    (without : otherConfig.followLinks = false ∨ otherConfig.stripMarkup = false)
    (sameLimit : config.limit = otherConfig.limit) :
    (other.run disk otherConfig).visited <+: (search.run disk config).visited ∧
      ((search.run disk config).report.links = 0 →
        (other.run disk otherConfig).visited = (search.run disk config).visited) := by
  fun_induction Search.run disk otherConfig other generalizing search with
  | case1 other full =>
      rw [← together.isFull_eq sameLimit] at full
      rw [run_of_isFull full, together.visited]
      exact ⟨List.prefix_refl _, fun _ => rfl⟩
  | case2 other room empty =>
      rw [← together.visited]
      refine ⟨visited_isPrefix_run search, fun none => ?_⟩
      obtain ⟨more, longer, counted⟩ := together.queue
      have fewer : search.report.links ≤ (search.run disk config).report.links :=
        links_le_run search
      have nothing : more = [] := List.eq_nil_of_length_eq_zero (by omega)
      rw [empty, nothing] at longer
      rw [run_of_queue_eq_nil longer]
  | case3 other room path others queued inductionHypothesis =>
      rw [← together.isFull_eq sameLimit] at room
      obtain ⟨more, longer, next⟩ := together.visit without queued
      rw [run_of_queue_eq_cons (eq_false_of_ne_true room) longer]
      exact inductionHypothesis next

end Accompanies

/-- From the same seeds, a search that keeps markup finds nothing, and visits the front of what
one visits that strips it. -/
theorem ofSeeds_withStripping (disk : Disk) (config : Config) (seeds : List Text) :
    let kept := ofSeeds disk (config.withStripping false) seeds
    let stripped := ofSeeds disk (config.withStripping true) seeds
    kept.report.links = 0 ∧ (config.followLinks = false → stripped.report.links = 0) ∧
      kept.visited <+: stripped.visited ∧
        (stripped.report.links = 0 → kept.visited = stripped.visited) := by
  intro kept stripped
  let planted := (start Index.empty).discover (filesAhead disk config seeds)
  have together : planted.Accompanies planted := ⟨rfl, rfl, [], (List.append_nil _).symm, rfl⟩
  have start : ∀ strips, ofSeeds disk (config.withStripping strips) seeds
      = planted.run disk (config.withStripping strips) := by
    intro strips
    rw [ofSeeds, filesAhead_withStripping]
  simp only [kept, stripped, start]
  refine ⟨links_run_eq (.inr rfl) planted, fun without => ?_, together.run (.inr rfl) rfl⟩
  apply links_run_eq
  exact .inl without

theorem orderly_ofSeeds (disk : Disk) (config : Config) (seeds : List Text) :
    (ofSeeds disk config seeds).Orderly := by
  refine run_keeps ?_ _ ((orderly_start Index.empty).extend (extends_discover _ _))
  intro search path others _ queue orderly
  exact orderly.extend (extends_visit queue)

end Search

/-! ## Documents without markup -/

/-- What a corpus has of a document comes from the texts of that document alone. -/
theorem ofTexts_filter (texts : List (Text × Text)) (document : Text) :
    Corpus.ofTexts (texts.filter fun entry => entry.1 = document) document
      = Corpus.ofTexts texts document := by
  have added : ∀ (texts : List (Text × Text)) (corpus other : Corpus),
      corpus document = other document →
      (texts.filter fun entry => entry.1 = document).foldl
          (fun corpus entry => (corpus.addText entry.1 entry.2).1) corpus document
        = texts.foldl (fun corpus entry => (corpus.addText entry.1 entry.2).1) other document := by
    intro texts
    induction texts with
    | nil => exact fun _ _ same => same
    | cons entry others inductionHypothesis =>
        intro corpus other same
        rw [List.foldl_cons]
        by_cases own : entry.1 = document
        · rw [List.filter_cons_of_pos (by simpa using own), List.foldl_cons]
          apply inductionHypothesis
          simp only [Corpus.addText, Corpus.append_apply, Corpus.wordsOf, own, same]
        · rw [List.filter_cons_of_neg (by simpa using own)]
          apply inductionHypothesis
          simp only [Corpus.addText, Corpus.append_apply, if_neg own, same]
  exact added texts _ _ rfl

/-- The texts of a path all have its key. -/
theorem fst_eq_of_mem_textsAt {disk : Disk} {config : Config} {path : Path}
    {entry : Text × Text} (member : entry ∈ textsAt disk config path) :
    isReadable disk path = true ∧ entry.1 = key path :=
  mem_map_fst_textsAt.mp (List.mem_map_of_mem member)

/-- Among the texts of the paths that are visited, those of a document that is read are told by
their key. -/
theorem filter_texts {disk : Disk} {config : Config} {search : Search} {path : Path}
    (orderly : search.Orderly) (visited : path ∈ search.visited)
    (readable : isReadable disk path = true) :
    (search.texts disk config).filter (fun entry => entry.1 = key path)
      = textsAt disk config path := by
  have others : ∀ paths : List Path, path ∉ paths →
      (paths.flatMap (textsAt disk config)).filter (fun entry => entry.1 = key path) = [] := by
    intro paths missing
    rw [List.filter_eq_nil_iff]
    intro entry member same
    obtain ⟨other, among, inside⟩ := List.mem_flatMap.mp member
    obtain ⟨otherReadable, named⟩ := fst_eq_of_mem_textsAt inside
    have keys : key other = key path := named.symm.trans (of_decide_eq_true same)
    have paths_eq : other = path :=
      key_injOn (ne_nil_of_isReadable otherReadable) (ne_nil_of_isReadable readable) keys
    exact missing (paths_eq ▸ among)
  have own : (textsAt disk config path).filter (fun entry => entry.1 = key path)
      = textsAt disk config path :=
    List.filter_eq_self.mpr fun entry member => decide_eq_true (fst_eq_of_mem_textsAt member).2
  obtain ⟨front, back, split⟩ := List.append_of_mem visited
  have distinct := orderly.nodup_visited
  rw [split, List.nodup_middle, List.nodup_cons, List.mem_append, not_or] at distinct
  rw [Search.texts, split, List.flatMap_append, List.flatMap_cons, List.filter_append,
    List.filter_append, others front distinct.1.1, others back distinct.1.2, own,
    List.nil_append, List.append_nil]

/-- Two searches index a document alike that both read, if it has the same texts for both. -/
theorem agreesOn_of_textsAt_eq {disk : Disk} {config otherConfig : Config}
    {search other : Search} {path : Path}
    (tallied : search.Tallied disk config) (otherTallied : other.Tallied disk otherConfig)
    (orderly : search.Orderly) (otherOrderly : other.Orderly)
    (visited : path ∈ search.visited) (otherVisited : path ∈ other.visited)
    (readable : isReadable disk path = true)
    (same : textsAt disk config path = textsAt disk otherConfig path) :
    search.index.cursor? (key path) = other.index.cursor? (key path) ∧
      search.index.AgreesOn other.index (key path) := by
  have represents := Index.Represents.ofTexts (search.texts disk config)
  have otherRepresents := Index.Represents.ofTexts (other.texts disk otherConfig)
  have corpora : Corpus.ofTexts (search.texts disk config) (key path)
      = Corpus.ofTexts (other.texts disk otherConfig) (key path) := by
    rw [← ofTexts_filter, ← ofTexts_filter (other.texts disk otherConfig),
      filter_texts orderly visited readable, filter_texts otherOrderly otherVisited readable, same]
  rw [tallied.index, otherTallied.index]
  constructor
  · rw [represents.cursor, otherRepresents.cursor, corpora]
  · intro word
    rw [represents.positions, otherRepresents.positions, Corpus.wordsOf, Corpus.wordsOf, corpora]

/-! ## Crawls -/

/-- A first crawl fails as its seeds do. -/
theorem crawl_new_of_failure {disk : Disk} {config : Config} {seeds : List Text}
    {failure : Failure}
    (led : ((Search.start Index.empty).plant disk config seeds).2 = some failure) :
    (crawl disk (Crawler.new config) seeds).result = .error failure := by
  have called := ((agrees_new config).crawl disk seeds).1
  rw [Search.call_of_failure led] at called
  exact called

/-- A first crawl that keeps markup and one that strips it fail alike. Otherwise, the one that
keeps markup follows no links, and loads the front of what the other one loads. They load and
count the same exactly if the other one follows no links either, which is so if settings forbid
it. What both load without being markup is indexed alike. -/
theorem crawl_withStripping (disk : Disk) (config : Config) (seeds : List Text) :
    let kept := crawl disk (Crawler.new (config.withStripping false)) seeds
    let stripped := crawl disk (Crawler.new (config.withStripping true)) seeds
    let pathsKept := pathsLoaded disk (config.withStripping false) seeds
    let pathsStripped := pathsLoaded disk (config.withStripping true) seeds
    (∃ failure, kept.result = .error failure ∧ stripped.result = .error failure) ∨
      ∃ reportKept reportStripped,
        kept.result = .ok reportKept ∧ stripped.result = .ok reportStripped ∧
        reportKept.links = 0 ∧ pathsKept <+: pathsStripped ∧
        (pathsKept = pathsStripped ∧ reportKept.indexed = reportStripped.indexed ∧
            reportKept.failed = reportStripped.failed ∧ reportKept.links = reportStripped.links ↔
          reportStripped.links = 0) ∧
        (config.followLinks = false → reportStripped.links = 0) ∧
        ∀ path ∈ pathsKept, isReadable disk path = true → isMarkup path = false →
          kept.crawler.index.cursor? (key path) = stripped.crawler.index.cursor? (key path) ∧
            kept.crawler.index.AgreesOn stripped.crawler.index (key path) := by
  intro kept stripped pathsKept pathsStripped
  have planted : ∀ strips, ((Search.start Index.empty).plant disk
      (config.withStripping strips) seeds).2
        = ((Search.start Index.empty).plant disk config seeds).2 := by
    intro strips
    rw [Search.plant_withStripping]
  cases led : ((Search.start Index.empty).plant disk config seeds).2 with
  | some failure =>
      left
      exact ⟨failure, crawl_new_of_failure ((planted false).trans led),
        crawl_new_of_failure ((planted true).trans led)⟩
  | none =>
      right
      obtain ⟨resultKept, agreesKept, visitedKept⟩ := crawl_new_of_plant ((planted false).trans led)
      obtain ⟨resultStripped, agreesStripped, visitedStripped⟩ :=
        crawl_new_of_plant ((planted true).trans led)
      have tallyKept := Search.tallied_ofSeeds disk (config.withStripping false) seeds
      have tallyStripped := Search.tallied_ofSeeds disk (config.withStripping true) seeds
      obtain ⟨none, forbidden, front, whole⟩ := Search.ofSeeds_withStripping disk config seeds
      refine ⟨_, _, resultKept, resultStripped, none, ?_, ⟨?_, ?_⟩, forbidden, ?_⟩
      · rw [visitedKept, visitedStripped] at front
        exact front
      · rintro ⟨_, _, _, links⟩
        exact links.symm.trans none
      · intro nothing
        have same := whole nothing
        refine ⟨?_, ?_, ?_, none.trans nothing.symm⟩
        · rw [visitedKept, visitedStripped] at same
          exact same
        · rw [tallyKept.indexed, tallyStripped.indexed, same]
        · rw [tallyKept.failed, tallyStripped.failed, same]
      · intro path loaded readable plain
        rw [agreesKept.index, agreesStripped.index]
        have visited : path ∈ (Search.ofSeeds disk (config.withStripping false) seeds).visited := by
          rw [visitedKept]
          exact loaded
        apply agreesOn_of_textsAt_eq tallyKept tallyStripped
          (Search.orderly_ofSeeds disk _ seeds) (Search.orderly_ofSeeds disk _ seeds)
          visited (front.subset visited) readable
        rw [textsAt_withStripping disk config _ plain, textsAt_withStripping disk config _ plain]

/-- A page that links to a text. -/
def pageWithText : Disk where
  entries :=
    [(Utf8.encode "a.html", .file (Utf8.encode "<a href=\"b.txt\">x</a>")),
      (Utf8.encode "b.txt", .file (Utf8.encode "bee"))]
  current := []

/-- The text is left out where markup is kept. -/
theorem crawl_pageWithText :
    Config.initial.followLinks = true ∧
      (crawl pageWithText (Crawler.new (Config.initial.withStripping true)) ["a.html"]).result
        = .ok ⟨2, 0, 2, 1⟩ ∧
      (crawl pageWithText (Crawler.new (Config.initial.withStripping false)) ["a.html"]).result
        = .ok ⟨1, 0, 6, 0⟩ := by
  refine ⟨rfl, ?_, ?_⟩ <;> decide +kernel

end Concordance.Crawl
