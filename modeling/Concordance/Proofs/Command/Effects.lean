import Concordance.Proofs.Command.Page
import Concordance.Proofs.Crawl.Limit
import Concordance.Proofs.Disk.Frame
import Concordance.Proofs.Index.Adding

/-!
Contract: what the actions of a user leave on the disk.

Queries, explanations and counts read the disk and no more. An index is built and encoded before
the disk is touched, so that whatever fails leaves the disk as it was, with an older index at the
same place. What succeeds changes one file, from which later queries and counts are answered.

Owns:
- what is answered from an index;
- what building an index fails for, and what it leaves;
- the disk after every action.

Does not own: writing a file (`Concordance.Proofs.Disk.Frame`) and what an index holds after a
crawl (`Concordance.Proofs.Crawl.Limit`).
-/

set_option autoImplicit false

namespace Concordance.Command

/-! ## Answers from an index -/

/-- What a query is answered with from an index. -/
def answer (index : Index) (asking : Asking) : Except Failure Report :=
  (readQuery asking.depthLimit asking.query).map fun tree =>
    .page (.ofMatches asking.query asking.limit (Query.evaluate index tree) 0)

/-- A disk on which a name stands for an index: the index is loaded by the name, and queries and
counts that give the name are answered from the index. -/
structure AnswersFrom (disk : Disk) (name : Text) (index : Index) : Prop where
  loads : Storage.load disk name = .ok index
  queries : ∀ asking, asking.index = name →
    (run disk (.query asking)).result = answer index asking
  counts : (run disk (.stats name)).result = .ok (.size ⟨name, index.statistics⟩)

theorem answersFrom_iff {disk : Disk} {name : Text} {index : Index} :
    AnswersFrom disk name index ↔ Storage.load disk name = .ok index := by
  refine ⟨AnswersFrom.loads, fun loaded => ⟨loaded, ?_, ?_⟩⟩
  · rintro asking rfl
    simp only [run, ask, loaded, answer]
    cases readQuery asking.depthLimit asking.query <;> rfl
  · simp only [run, measure, loaded]

/-! ## Indexes that are built -/

/-- The crawl for which an index is built. -/
def Building.crawled (building : Building) (disk : Disk) : Crawl.Outcome :=
  Crawl.crawl disk (.new building.crawl) building.paths

/-- The index that is built. -/
def Building.index (building : Building) (disk : Disk) : Index :=
  (building.crawled disk).crawler.index

theorem sound_index {disk : Disk} {building : Building} {counts : Crawl.Report}
    (finished : (building.crawled disk).result = .ok counts) : (building.index disk).Sound := by
  obtain ⟨_, _, _, _, texts⟩ := Crawl.crawl_new_counted (Crawl.plant_start_of_crawl finished)
  rw [Building.index, Building.crawled, texts]
  exact Index.sound_ofTexts _

/-- What is left on a disk when an index has been saved. The file is where the output leads, which
is where it led if it led anywhere, and all else is as it was. Whatever name leads to the file
stands for the index that was built, exactly if its numbers fit into the file. -/
structure Saved (disk : Disk) (building : Building) (listing : Storage.Listing) (path : Disk.Path)
    (changed : Disk) : Prop where
  stays : ∀ place, disk.locate (Utf8.encode building.output) = .ok place → place = path
  opens : changed.Opens (Utf8.encode building.output) path
  keeps : disk.KeepsBeside path changed
  holds : changed.node? path = some (.file (Storage.file building.storage listing))
  answers : ∀ name, changed.Opens (Utf8.encode name) path →
    (AnswersFrom changed name (building.index disk) ↔
      Storage.Fits building.storage (building.index disk) listing)

theorem saved_put {disk : Disk} {building : Building} {listing : Storage.Listing}
    {path : Disk.Path} (writes : disk.WritesAt (Utf8.encode building.output) path)
    (sound : (building.index disk).Sound) (lists : listing.Lists (building.index disk)) :
    Saved disk building listing path
      (disk.put path (.file (Storage.file building.storage listing))) where
  stays _ located := writes.eq_of_locate located
  opens := writes.opens _
  keeps := Disk.keepsBeside_put _ writes.takes
  holds := Disk.node?_put_self _ writes.takes
  answers name opens := by
    have read := Disk.read_eq_ok_iff.mpr ⟨path, opens, Disk.contentAt_put _ writes.takes⟩
    rw [answersFrom_iff, ← Storage.decode_file_iff sound lists, Storage.load, read]
    dsimp only
    cases Storage.decode (Storage.file building.storage listing) <;> simp

/-- What building an index fails for: a seed that leads nowhere, or an output where no file can be
made, not even an empty one. -/
inductive Fails (disk : Disk) (building : Building) : Failure → Prop where
  | crawling {failure : Failure} (failed : (building.crawled disk).result = .error failure) :
      Fails disk building failure
  | writing {fault : Disk.Fault}
      (refused : disk.write (Utf8.encode building.output) [] = .error fault) :
      Fails disk building (.disk fault)

/-! ## Disks after actions -/

/-- What an action may answer, and what it leaves of a disk. Building an index that succeeds leaves
the file with the entries of the index in one order, and would leave as much with them in any
other. -/
inductive Leaves (disk : Disk) : Action → Except Failure Report → Disk → Prop where
  | query (asking : Asking) (result : Except Failure Report) :
      Leaves disk (.query asking) result disk
  | explain (query : Text) (depthLimit : Nat) (result : Except Failure Report) :
      Leaves disk (.explain query depthLimit) result disk
  | stats (index : Text) (result : Except Failure Report) :
      Leaves disk (.stats index) result disk
  | failed {building : Building} {failure : Failure} (fails : Fails disk building failure) :
      Leaves disk (.index building) (.error failure) disk
  | saved {building : Building} {counts : Crawl.Report} {path : Disk.Path} {changed : Disk}
      (finished : (building.crawled disk).result = .ok counts)
      (saves : Saved disk building (Storage.listing (building.index disk)) path changed)
      (inAnyOrder : ∀ listing : Storage.Listing, listing.Lists (building.index disk) →
        Saved disk building listing path
          (disk.put path (.file (Storage.file building.storage listing)))) :
      Leaves disk (.index building)
        (.ok (.construction
          ⟨building.output, counts, (building.index disk).statistics, 0⟩)) changed

theorem leaves_build (disk : Disk) (building : Building) :
    Leaves disk (.index building) (build disk building).result (build disk building).disk := by
  cases finished : (building.crawled disk).result with
  | error failure =>
      have ended : (build disk building).result = .error failure ∧
          (build disk building).disk = disk := by
        unfold Building.crawled at finished
        simp only [build, finished, and_self]
      rw [ended.1, ended.2]
      exact .failed (.crawling finished)
  | ok counts =>
      have sound := sound_index finished
      cases written : disk.write (Utf8.encode building.output)
          (Storage.encode building.storage (building.index disk)) with
      | error fault =>
          have ended : (build disk building).result = .error (.disk fault) ∧
              (build disk building).disk = disk := by
            unfold Building.index Building.crawled at written
            unfold Building.crawled at finished
            simp only [build, finished, Storage.save, written, and_self]
          rw [ended.1, ended.2]
          exact .failed (.writing (Disk.write_error_congr written []))
      | ok changed =>
          have ended : (build disk building).result = .ok (.construction
                ⟨building.output, counts, (building.index disk).statistics, 0⟩) ∧
              (build disk building).disk = changed := by
            unfold Building.index Building.crawled at written
            unfold Building.crawled at finished
            simp only [build, finished, Storage.save, written, Building.index, Building.crawled,
              and_self]
          obtain ⟨path, writes, same⟩ := Disk.exists_writesAt written
          rw [ended.1, ended.2, same]
          exact .saved finished (saved_put writes sound (Storage.lists_listing _))
            fun listing lists => saved_put writes sound lists

/-- Queries, explanations and counts leave the disk as it was, whatever they answer, and so does
building an index that fails: for a seed that leads nowhere, or because no file can be made. One
that succeeds changes the file to which its output leads and nothing else, and from that file the
index of the crawl is loaded, unless its numbers are too large for any index file. -/
theorem run_leaves (disk : Disk) (action : Action) :
    Leaves disk action (run disk action).result (run disk action).disk := by
  cases action with
  | index building => exact leaves_build disk building
  | query asking =>
      have kept : (run disk (.query asking)).disk = disk := by
        simp only [run, ask]
        split
        · rfl
        · split <;> rfl
      rw [kept]
      exact .query asking _
  | explain query depthLimit =>
      have kept : (run disk (.explain query depthLimit)).disk = disk := by
        simp only [run, explain]
        split <;> rfl
      rw [kept]
      exact .explain query depthLimit _
  | stats path =>
      have kept : (run disk (.stats path)).disk = disk := by
        simp only [run, measure]
        split <;> rfl
      rw [kept]
      exact .stats path _

/-- A note, an index of an earlier day, and a link to that index. -/
def desk : Disk where
  entries :=
    [(Utf8.encode "a.txt", .file (Utf8.encode "Fox")),
      (Utf8.encode "index.db", .file (Utf8.encode "stale")),
      (Utf8.encode "out", .link (Utf8.encode "index.db"))]
  current := []

/-- The note is indexed by way of the link. -/
def tidying : Building := ⟨["a.txt"], "out", .json, false, false, none, []⟩

/-- Behind the link the index of the note takes the place of the earlier one, the note stays, and a
query is answered by way of the link. -/
theorem run_leaves_desk :
    ∃ changed, (run desk (.index tidying)).disk = changed ∧
      changed.node? [Utf8.encode "a.txt"] = some (.file (Utf8.encode "Fox")) ∧
      changed.node? [Utf8.encode "index.db"]
        = some (.file (Storage.encode .json (tidying.index desk))) ∧
      (run changed (.query ⟨"fox", "out", none, 8⟩)).result
        = .ok (.page ⟨"fox", ["file:///a.txt"], 1, 0⟩) := by
  have finished : (tidying.crawled desk).result = .ok ⟨1, 0, 1, 0⟩ := by decide +kernel
  have writable : (desk.write (Utf8.encode "out") []).isOk = true := by decide +kernel
  have led : desk.locate (Utf8.encode "out") = .ok [Utf8.encode "index.db"] := by decide +kernel
  have narrow : (tidying.index desk).IsNarrow := by decide +kernel
  have leaves := run_leaves desk (.index tidying)
  generalize (run desk (.index tidying)).disk = changed at leaves ⊢
  generalize (run desk (.index tidying)).result = result at leaves
  cases leaves with
  | failed fails =>
      cases fails with
      | crawling failed => cases finished.symm.trans failed
      | writing refused =>
          have out : tidying.output = "out" := rfl
          rw [← out, refused] at writable
          cases writable
  | saved _ saves =>
      cases saves.stays _ led
      have kept := saves.keeps.nodes [Utf8.encode "a.txt"] (by decide)
      have note : desk.node? [Utf8.encode "a.txt"] = some (.file (Utf8.encode "Fox")) := rfl
      rw [note, Option.map_some] at kept
      obtain ⟨node, found, same⟩ := Option.map_eq_some_iff.mp kept
      have answers := (saves.answers "out" saves.opens).mpr ⟨narrow, nofun⟩
      refine ⟨changed, rfl, ?_, saves.holds, ?_⟩
      · cases node <;> cases same
        exact found
      · rw [answers.queries _ rfl]
        decide +kernel

/-- An index that may not be written lets none take its place. -/
example :
    let disk : Disk := ⟨[(Utf8.encode "a.txt", .file (Utf8.encode "Fox")),
      (Utf8.encode "out", .guarded (some (Utf8.encode "stale")))], []⟩
    (run disk (.index tidying)).result = .error (.disk .notPermitted) := by
  decide +kernel

end Concordance.Command
