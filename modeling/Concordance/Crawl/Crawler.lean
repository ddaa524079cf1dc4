import Concordance.Crawl.Document
import Concordance.Index.Records
import Std.Data.ExtTreeSet

/-!
Contract: what a crawler knows, and what visiting one document changes.

Owns:
- crawlers, their reports and queues;
- queueing a path, which happens once for every path;
- `visit`, and the bound on the visits that are left.

Does not own: how many documents are visited (`Concordance.Crawl.Wave`).
-/

set_option autoImplicit false

namespace Concordance.Crawl

open Concordance.Disk (Path)
open Concordance.Journal (Record)

/-- Number of documents indexed, documents that could not be read, words indexed, and
links queued. -/
structure Report where
  indexed : Nat
  failed : Nat
  words : Nat
  links : Nat
deriving DecidableEq, Repr

/-- A crawler with its settings, the index built so far, every path ever queued, and
the report of all its crawls. -/
structure Crawler where
  config : Config
  index : Index
  seen : Std.ExtTreeSet Path
  report : Report

/-- The crawler that adds to an index. -/
def Crawler.withIndex (config : Config) (index : Index) : Crawler :=
  ⟨config, index, ∅, ⟨0, 0, 0, 0⟩⟩

/-- The crawler with an empty index. -/
def Crawler.new (config : Config) : Crawler := .withIndex config ∅

/-- A crawl under way: the crawler and the paths to visit, in order. -/
structure Progress where
  crawler : Crawler
  queue : List Path

/-- Queues a path unless it was queued before. -/
def Progress.enqueue (progress : Progress) (path : Path) : Progress :=
  if progress.crawler.seen.contains path then progress
  else
    ⟨{ progress.crawler with seen := progress.crawler.seen.insert path },
      progress.queue ++ [path]⟩

/-- Queues the target of a link, and counts it if it was not queued before. -/
def Progress.follow (progress : Progress) (link : Path) : Progress :=
  if progress.crawler.seen.contains link then progress
  else
    let queued := progress.enqueue link
    let report := { queued.crawler.report with links := queued.crawler.report.links + 1 }
    { queued with crawler := { queued.crawler with report } }

/-! ## Documents -/

/-- The texts of a document. The empty one makes it known even if it has no words. -/
def Document.texts (document : Document) : List Text := [] :: document.chunks

/-- The index with further texts of a document, and the number of their words. -/
def addTexts (index : Index) (key : Text) (texts : List Text) : Index × Nat :=
  texts.foldl
    (fun state text =>
      let added := state.1.addText key text
      (added.1, state.2 + added.2))
    (index, 0)

/-- The records of adding texts of a document. -/
def addTextsRecords (index : Index) (key : Text) : List Text → List Record
  | [] => []
  | text :: others =>
      index.addTextRecords key text
        ++ addTextsRecords (index.addText key text).1 key others

/-- The crawler after a document is indexed. -/
def Crawler.addDocument (crawler : Crawler) (document : Document) : Crawler :=
  let added := addTexts crawler.index (key document.path) document.texts
  { crawler with
    index := added.1
    report := { crawler.report with
      indexed := crawler.report.indexed + 1
      words := crawler.report.words + added.2 } }

/-- The crawler after a document could not be loaded. -/
def Crawler.addFailure (crawler : Crawler) : Crawler :=
  { crawler with report := { crawler.report with failed := crawler.report.failed + 1 } }

/-- What loading a document changes: its links are queued, and then its text is
indexed. -/
def Progress.absorb (progress : Progress) : Except Failure Document → Progress
  | .error _ => { progress with crawler := progress.crawler.addFailure }
  | .ok document =>
      let followed := document.links.foldl Progress.follow progress
      { followed with crawler := followed.crawler.addDocument document }

/-- The records of absorbing a document into an index. -/
def absorbRecords (index : Index) : Except Failure Document → List Record
  | .error failure =>
      [⟨.warn, .crawling, Text.concat ["Skipping document: ", failure.render]⟩]
  | .ok document =>
      let key := key document.path
      addTextsRecords index key document.texts
        ++ [⟨.debug, .crawling,
            Text.concat
              ["Indexed ", key, " (",
                Text.decimal (addTexts index key document.texts).2, " words) from ",
                Disk.Path.render document.path]⟩]

/-- Visits the document at a path. -/
def Progress.visit (source : Source) (progress : Progress) (path : Path) : Progress :=
  progress.absorb (source.load path)

/-! ## The visits that are left -/

/-- The files of a source that have not been queued. -/
def unseen (source : Source) (seen : Std.ExtTreeSet Path) : List Path :=
  source.files.filter fun path => !seen.contains path

/-- At most so many visits are left: those in the queue, and one for every file that
has not been queued. -/
def Progress.remaining (source : Source) (progress : Progress) : Nat :=
  (unseen source progress.crawler.seen).length + progress.queue.length

theorem length_unseen_insert_lt {source : Source} {seen : Std.ExtTreeSet Path}
    {path : Path} (member : path ∈ source.files) (new : seen.contains path = false) :
    (unseen source (seen.insert path)).length < (unseen source seen).length := by
  have fewer : unseen source (seen.insert path)
      = (unseen source seen).filter fun other => !(compare path other == .eq) := by
    simp only [unseen, List.filter_filter, Std.ExtTreeSet.contains_insert, Bool.not_or]
  rw [fewer]
  refine List.length_filter_lt_length_iff_exists.mpr ⟨path, ?_, ?_⟩
  · exact List.mem_filter.mpr ⟨member, by simp [new]⟩
  · simp

theorem Progress.remaining_enqueue_le {source : Source} (progress : Progress)
    {path : Path} (member : path ∈ source.files) :
    (progress.enqueue path).remaining source ≤ progress.remaining source := by
  unfold Progress.enqueue
  split
  · exact Nat.le_refl _
  · rename_i new
    have fewer := length_unseen_insert_lt member (eq_false_of_ne_true new)
    simp only [Progress.remaining, List.length_append, List.length_singleton]
    omega

theorem Progress.remaining_follow_le {source : Source} (progress : Progress)
    {link : Path} (member : link ∈ source.files) :
    (progress.follow link).remaining source ≤ progress.remaining source := by
  unfold Progress.follow
  split
  · exact Nat.le_refl _
  · exact progress.remaining_enqueue_le member

theorem Progress.remaining_foldl_follow_le {source : Source} (progress : Progress)
    {links : List Path} (members : ∀ link ∈ links, link ∈ source.files) :
    (links.foldl Progress.follow progress).remaining source
      ≤ progress.remaining source := by
  induction links generalizing progress with
  | nil => exact Nat.le_refl _
  | cons link others inductionHypothesis =>
      exact Nat.le_trans
        (inductionHypothesis (progress.follow link) fun other member =>
          members other (List.mem_cons_of_mem _ member))
        (progress.remaining_follow_le (members link List.mem_cons_self))

/-- A visit adds nothing to the visits that are left. -/
theorem Progress.remaining_visit_le (source : Source) (progress : Progress)
    (path : Path) :
    (progress.visit source path).remaining source ≤ progress.remaining source := by
  unfold Progress.visit
  cases loaded : source.load path with
  | error => exact Nat.le_refl _
  | ok document =>
      exact progress.remaining_foldl_follow_le (source.closed path document loaded)

end Concordance.Crawl
