import Concordance.Crawl.Crawler
import Concordance.Crawl.Directory
import Concordance.Crawl.Seed

/-!
Contract: crawls.

The seeds fill a queue. Then the queue is emptied in waves: as many documents as the
limit leaves room for are loaded together, and then indexed one after another.

Owns: the waves, and `crawl`.

Does not own: what visiting one document changes (`Concordance.Crawl.Crawler`).
-/

set_option autoImplicit false

namespace Concordance.Crawl

open Concordance.Disk (Path)
open Concordance.Journal (Record)

/-- Whether no further document may be indexed. -/
def Crawler.isFull (crawler : Crawler) : Bool :=
  match crawler.config.limit with
  | none => false
  | some limit => limit ≤ crawler.report.indexed

/-- The paths at the front of the queue that the limit leaves room for. -/
def Progress.wave (progress : Progress) : List Path :=
  match progress.crawler.config.limit with
  | none => progress.queue
  | some limit => progress.queue.take (limit - progress.crawler.report.indexed)

/-- The progress without the front of the queue. -/
def Progress.dequeue (progress : Progress) (count : Nat) : Progress :=
  { progress with queue := progress.queue.drop count }

/-- Visits paths one after another. -/
def visitAll (source : Source) (progress : Progress) :
    List Path → Progress × List Record
  | [] => (progress, [])
  | path :: others =>
      let next := visitAll source (progress.visit source path) others
      (next.1, absorbRecords progress.crawler.index (source.load path) ++ next.2)

/-- The record of a wave that begins. -/
def waveRecord (count : Nat) : Record :=
  ⟨.debug, .crawling,
    Text.concat ["Crawling wave of ", Text.decimal count, " documents"]⟩

/-- The record of a crawl that ends at the limit. -/
def limitRecord : Record :=
  ⟨.info, .crawling, "Reached the document limit, stopping crawl"⟩

theorem remaining_visitAll_le (source : Source) (progress : Progress)
    (paths : List Path) :
    (visitAll source progress paths).1.remaining source ≤ progress.remaining source := by
  induction paths generalizing progress with
  | nil => exact Nat.le_refl _
  | cons path others inductionHypothesis =>
      exact Nat.le_trans (inductionHypothesis _) (progress.remaining_visit_le source path)

theorem Progress.queue_ne_nil_of_wave {progress : Progress} {first : Path}
    {others : List Path} (wave : progress.wave = first :: others) :
    progress.queue ≠ [] := by
  intro empty
  unfold Progress.wave at wave
  split at wave <;> simp [empty] at wave

/-- Visits in waves until the queue is empty or the limit is reached. -/
def waves (source : Source) (progress : Progress) : Crawler × List Record :=
  match _wave : progress.wave with
  | [] => (progress.crawler, [])
  | first :: others =>
      let count := others.length + 1
      let visited := visitAll source (progress.dequeue count) (first :: others)
      let records := waveRecord count :: visited.2
      if visited.1.crawler.isFull then (visited.1.crawler, records ++ [limitRecord])
      else
        let later := waves source visited.1
        (later.1, records ++ later.2)
termination_by progress.remaining source
decreasing_by
  have bound := remaining_visitAll_le source (progress.dequeue (others.length + 1))
    (first :: others)
  have queued := List.length_pos_iff.mpr (progress.queue_ne_nil_of_wave _wave)
  refine Nat.lt_of_le_of_lt bound ?_
  simp only [Progress.remaining, Progress.dequeue, List.length_drop]
  omega

/-! ## Seeds -/

/-- Queues the files that seeds lead to, up to the first seed that leads nowhere. -/
def plant (disk : Disk) (progress : Progress) :
    List Text → Progress × Option Failure × List Record
  | [] => (progress, none, [])
  | seed :: others =>
      match seedPath disk seed with
      | .error failure => (progress, some failure, [])
      | .ok path =>
          if disk.isDirectory path then
            let found := findings disk progress.crawler.config path
            let planted := (found.filterMap Finding.file?).foldl Progress.enqueue progress
            let next := plant disk planted others
            (next.1, next.2.1, found.filterMap Finding.record? ++ next.2.2)
          else plant disk (progress.enqueue path) others

/-- What a crawl ends with: the crawler, and the report of all its crawls unless a
seed led nowhere. -/
structure Outcome where
  crawler : Crawler
  result : Except Failure Report
  records : List Record

/-- The record of a crawl that is finished. -/
def finishRecord (report : Report) : Record :=
  ⟨.info, .crawling,
    Text.concat
      ["Crawl finished: ", Text.decimal report.indexed, " documents indexed, ",
        Text.decimal report.failed, " failed"]⟩

/-- Crawls from seeds. -/
def crawl (disk : Disk) (crawler : Crawler) (seeds : List Text) : Outcome :=
  let planted := plant disk ⟨crawler, []⟩ seeds
  match planted.2.1 with
  | some failure => ⟨planted.1.crawler, .error failure, planted.2.2⟩
  | none =>
      let ended := waves (source disk crawler.config) planted.1
      ⟨ended.1, .ok ended.1.report,
        planted.2.2 ++ ended.2 ++ [finishRecord ended.1.report]⟩

end Concordance.Crawl
