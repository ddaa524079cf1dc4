import Concordance.Proofs.Url.Reading
import Concordance.Crawl.Wave

/-!
Contract: keys of documents as seeds.

A key is read back as the path it was made from. Only where the last name ends like a drive,
a separator is added, and a separator leads on only from a directory. That is why such a file
is found under its path, and not under its key.

Owns:
- what keys are written with, and what they are read as;
- crawls with a key as their seed.

Does not own: how the URL of a file is read (`Concordance.Proofs.Url.Reading`).
-/

set_option autoImplicit false

namespace Concordance.Crawl

open Concordance.Disk (Path IsName)

section Key

variable {path : Path}

/-- The segments of a key are written with printable characters, and a key has at least one
segment. -/
theorem exists_ofNames (path : Path) : ∃ first others, Url.ofNames path = first :: others ∧
    ∀ segment ∈ first :: others, ∀ character ∈ segment,
      Url.Percent.isWritten character = true := by
  cases path with
  | nil => exact ⟨[], [], rfl, by simp⟩
  | cons name rest =>
      refine ⟨Url.Percent.encode name, rest.map Url.Percent.encode,
        ofNames_of_ne_nil (List.cons_ne_nil name rest), ?_⟩
      rw [← List.map_cons]
      intro segment listed character inside
      obtain ⟨other, _, rfl⟩ := List.mem_map.mp listed
      exact Url.Percent.isWritten_of_mem_encode inside

/-- A key is written with printable characters other than blanks. -/
theorem printable_of_mem_key {character : Char} (member : character ∈ key path) :
    '!' ≤ character ∧ character ≤ '~' := by
  obtain ⟨first, others, segments, written⟩ := exists_ofNames path
  rw [key, segments] at member
  exact Url.mem_render member written

theorem isPrefix_key : "file:///".toList <+: key path := by
  obtain ⟨first, others, segments, _⟩ := exists_ofNames path
  rw [key, segments]
  exact ⟨first ++ others.flatMap fun segment => '/' :: segment, rfl⟩

theorem names_map_down (absolute slashed : Bool) :
    names ⟨absolute, path.map .down, slashed⟩ = path := by
  rw [names, List.filterMap_map]
  exact List.filterMap_some

/-- The key of a written path is that of the path that its names form. -/
theorem keyOf_of_encode (isPath : ∀ name ∈ path, IsName name) {written : Text}
    (spelled : Utf8.encode written = Disk.Path.bytes path) :
    keyOf written = .ok (key path) := by
  rw [keyOf, spelled, Disk.ofBytes_bytes isPath]
  dsimp only
  rw [if_pos rfl, names_map_down]

/-- The names of a path are what its segments stand for. The topmost directory has a segment
that stands for none. -/
theorem filter_decode_ofNames (isPath : ∀ name ∈ path, IsName name) :
    ((Url.ofNames path).map Url.Percent.decode).filter (fun name => !name.isEmpty) = path := by
  cases path with
  | nil => decide +kernel
  | cons name rest =>
      have same : Url.Percent.decode ∘ Url.Percent.encode = id :=
        funext Url.Percent.decode_encode
      rw [ofNames_of_ne_nil (List.cons_ne_nil name rest), List.map_map, same, List.map_id]
      exact List.filter_eq_self.mpr fun other member => by simpa using (isPath other member).1

/-- Different paths have different keys. -/
theorem eq_of_key (isPath : ∀ name ∈ path, IsName name) {other : Path}
    (otherIsPath : ∀ name ∈ other, IsName name) (same : key other = key path) :
    other = path := by
  have free : ∀ path : Path, ∀ segment ∈ Url.ofNames path, '/' ∉ segment := by
    intro path segment listed slash
    obtain ⟨first, others, segments, written⟩ := exists_ofNames path
    exact absurd (written segment (segments ▸ listed) '/' slash) (by decide)
  have segments : Url.ofNames other = Url.ofNames path :=
    Url.render_injOn (free other) (free path) same
  rw [← filter_decode_ofNames otherIsPath, segments, filter_decode_ofNames isPath]

/-- A key is read as the path that it was made from, at the end of which a separator is added
to what looks like a drive. -/
theorem writtenPath_key (isPath : ∀ name ∈ path, IsName name)
    (notDrive : ∀ name, path.head? = some name → Url.isDriveName name = false) :
    writtenPath (key path)
      = .ok (Disk.Path.bytes path
          ++ if Url.endsLikeDrive path then [Disk.separator] else []) := by
  have isUrl : "file:".toList.isPrefixOf (key path) = true := rfl
  obtain ⟨first, others, segments, written⟩ := exists_ofNames path
  cases path with
  | nil => decide +kernel
  | cons name rest =>
      have nonempty := List.cons_ne_nil name rest
      have encoded := ofNames_of_ne_nil nonempty
      have resolved : Url.resolve? none (key (name :: rest))
          = some ((name :: rest).map Url.Percent.encode) := by
        rw [key, encoded]
        rw [encoded] at segments
        obtain ⟨rfl, rfl⟩ := List.cons.inj segments
        refine Url.resolve?_render written ?_ ?_
        · intro segment listed
          rw [← List.map_cons] at listed
          obtain ⟨other, member, rfl⟩ := List.mem_map.mp listed
          exact Url.isPlain_encode (isPath other member)
        · refine Bool.eq_false_iff.mpr fun drive => ?_
          exact Bool.eq_false_iff.mp (notDrive name rfl) (Url.Percent.isDrive_encode drive)
      rw [writtenPath, if_pos isUrl, resolved]
      exact congrArg Except.ok (Url.filePath_encode nonempty isPath)

/-- A key leads where its path leads, unless that looks like a drive and is no directory. -/
theorem seedPath_key (isPath : ∀ name ∈ path, IsName name)
    (notDrive : ∀ name, path.head? = some name → Url.isDriveName name = false) {disk : Disk}
    {place : Path} (located : disk.locate (Disk.Path.bytes path) = .ok place) :
    seedPath disk (key path)
      = if Url.endsLikeDrive path && !disk.isDirectory place then
          .error (.crawl (Text.concat
            ["Cannot open seed ", key path, ": ", Disk.Fault.notDirectory.message]))
        else .ok place := by
  rw [seedPath, writtenPath_key isPath notDrive]
  dsimp only
  cases drive : Url.endsLikeDrive path
  · rw [if_neg Bool.false_ne_true, List.append_nil, located]
    rfl
  · have nonempty : path ≠ [] := by
      rintro rfl
      cases drive
    rw [if_pos rfl, Disk.locate_append_separator located (Disk.getLast?_bytes_ne nonempty isPath)]
    cases disk.isDirectory place <;> rfl

/-- A written path of names from the topmost directory is no URL. -/
theorem seedPath_of_encode {written : Text}
    (spelled : Utf8.encode written = Disk.Path.bytes path) {disk : Disk} {place : Path}
    (located : disk.locate (Disk.Path.bytes path) = .ok place) :
    seedPath disk written = .ok place := by
  have notUrl : ¬"file:".toList.isPrefixOf written = true := by
    intro isUrl
    obtain ⟨rest, rfl⟩ := List.isPrefixOf_iff_prefix.mp isUrl
    have first : (Utf8.encode ("file:".toList ++ rest)).head? = some 0x66 := rfl
    have slash : (Disk.Path.bytes path).head? = some Disk.separator := by cases path <;> rfl
    rw [spelled, slash] at first
    exact absurd first (by decide)
  rw [seedPath, writtenPath, if_neg notUrl, spelled]
  dsimp only
  rw [located]

/-- A crawl from one seed that leads somewhere depends on where it leads only. -/
theorem crawl_eq_of_seedPath {disk : Disk} (crawler : Crawler) {seed other : Text} {place : Path}
    (led : seedPath disk seed = .ok place) (otherLed : seedPath disk other = .ok place) :
    crawl disk crawler [seed] = crawl disk crawler [other] := by
  have planted : plant disk ⟨crawler, []⟩ [seed] = plant disk ⟨crawler, []⟩ [other] := by
    rw [plant, plant, led, otherLed]
  rw [crawl, crawl, planted]

/-- What comes of a crawl whose only seed is read. -/
theorem result_crawl_singleton_ok {disk : Disk} (crawler : Crawler) {seed : Text} {place : Path}
    (led : seedPath disk seed = .ok place) :
    ∃ report, (crawl disk crawler [seed]).result = .ok report := by
  have planted : (plant disk ⟨crawler, []⟩ [seed]).2.1 = none := by
    rw [plant, led]
    dsimp only
    split <;> rfl
  rw [crawl]
  dsimp only
  rw [planted]
  exact ⟨_, rfl⟩

theorem result_crawl_singleton_error {disk : Disk} (crawler : Crawler) {seed : Text}
    {failure : Failure} (failed : seedPath disk seed = .error failure) :
    (crawl disk crawler [seed]).result = .error failure := by
  rw [crawl, plant, failed]

/-- Keys are faithful and unambiguous, and as seeds they stand for their documents with one
exception. The key of a path whose first name is no drive can be made, is written with
printable characters, begins like the URL of a file on this machine, and is read as a path
with the same names, written in the same way unless its end looks like a drive. No other path
has that key. A crawl from it is a crawl from the path itself, exactly if the path does not
end like a drive or leads to a directory. -/
theorem key_reads_back (isPath : ∀ name ∈ path, IsName name)
    (notDrive : ∀ name, path.head? = some name → Url.isDriveName name = false) :
    (∀ written, Utf8.encode written = Disk.Path.bytes path → keyOf written = .ok (key path)) ∧
    (∀ character ∈ key path, '!' ≤ character ∧ character ≤ '~') ∧
    "file:///".toList <+: key path ∧
    writtenPath (key path)
      = .ok (Disk.Path.bytes path
          ++ if Url.endsLikeDrive path then [Disk.separator] else []) ∧
    (∀ other : Path, (∀ name ∈ other, IsName name) → key other = key path → other = path) ∧
    ∀ disk crawler written place, Utf8.encode written = Disk.Path.bytes path →
      disk.locate (Disk.Path.bytes path) = .ok place →
        (crawl disk crawler [key path] = crawl disk crawler [written] ↔
          (Url.endsLikeDrive path = true → disk.isDirectory place = true)) := by
  refine ⟨fun written => keyOf_of_encode isPath, fun character => printable_of_mem_key,
    isPrefix_key, writtenPath_key isPath notDrive, fun other => eq_of_key isPath,
    fun disk crawler written place spelled located => ?_⟩
  have byPath := seedPath_of_encode spelled located
  have byKey := seedPath_key isPath notDrive located
  by_cases lost : (Url.endsLikeDrive path && !disk.isDirectory place) = true
  · rw [if_pos lost] at byKey
    simp only [Bool.and_eq_true, Bool.not_eq_true'] at lost
    refine iff_of_false (fun same => ?_) fun leads => ?_
    · obtain ⟨report, finished⟩ := result_crawl_singleton_ok crawler byPath
      have failed := result_crawl_singleton_error crawler byKey
      rw [same, finished] at failed
      cases failed
    · exact absurd (leads lost.1) (Bool.eq_false_iff.mp lost.2)
  · rw [if_neg lost] at byKey
    refine iff_of_true (crawl_eq_of_seedPath crawler byKey byPath) fun drive => ?_
    simpa [drive] using lost

end Key

/-- A file whose name has characters that are escaped, and one whose name ends like a drive. -/
def signs : Disk where
  entries :=
    [(Utf8.encode "50% #1?.txt", .file (Utf8.encode "alpha")),
      (Utf8.encode "abc:", .file (Utf8.encode "beta"))]
  current := []

/-- A percent sign is escaped like what it would be taken for. -/
theorem key_reads_back_signs :
    let path := [Utf8.encode "50% #1?.txt"]
    let seed : Text := "file:///50%25%20%231%3F.txt"
    keyOf "/50% #1?.txt" = .ok seed ∧
      writtenPath seed = .ok (Disk.Path.bytes path) ∧
      (∀ other : Path, (∀ name ∈ other, IsName name) → key other = seed → other = path) ∧
      (crawl signs (Crawler.new .initial) ["/50% #1?.txt"]).result = .ok ⟨1, 0, 1, 0⟩ ∧
      crawl signs (Crawler.new .initial) [seed]
        = crawl signs (Crawler.new .initial) ["/50% #1?.txt"] := by
  intro path seed
  have isPath : ∀ name ∈ path, IsName name := by decide +kernel
  have notDrive : ∀ name, path.head? = some name → Url.isDriveName name = false := by
    rintro name isFirst
    cases isFirst
    decide +kernel
  have isKey : key path = seed := by decide +kernel
  have plain : Url.endsLikeDrive path = false := by decide +kernel
  obtain ⟨made, _, _, reads, only, crawls⟩ := key_reads_back isPath notDrive
  rw [isKey] at made reads only crawls
  rw [plain] at reads
  have located : signs.locate (Disk.Path.bytes path) = .ok path := by decide +kernel
  refine ⟨made _ (by decide +kernel), reads, only, by decide +kernel, ?_⟩
  exact (crawls signs (Crawler.new .initial) _ path (by decide +kernel) located).mpr
    fun drive => absurd (plain.symm.trans drive) Bool.false_ne_true

/-- The file that ends like a drive can be crawled under its path, but not under its key. -/
theorem crawl_key_drive :
    let path := [Utf8.encode "abc:"]
    (∀ name ∈ path, IsName name) ∧ (∀ name ∈ path, Url.isDriveName name = false) ∧
      key path = "file:///abc:".toList ∧
      (crawl signs (Crawler.new .initial) ["/abc:"]).result = .ok ⟨1, 0, 1, 0⟩ ∧
      (crawl signs (Crawler.new .initial) [key path]).result
        = .error (.crawl "Cannot open seed file:///abc:: Not a directory (os error 20)") := by
  intro path
  exact ⟨by decide +kernel, by decide +kernel, by decide +kernel, by decide +kernel,
    by decide +kernel⟩

end Concordance.Crawl
