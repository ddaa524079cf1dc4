import Concordance.Proofs.Crawl.Failing
import Concordance.Proofs.Disk.Tree
import Mathlib.Data.List.TakeWhile

/-!
Contract: which files a directory stands for, and in which order they are queued.

Every directory is looked at in the order of its names and entered in place. As names are
compared from the topmost directory on, the paths that are picked up come in their order.

Owns:
- extensions of names;
- the entries that are picked up below a directory, and the paths they are queued under;
- what queueing paths adds to a queue.

Does not own: where the links that are picked up lead (`Concordance.Proofs.Disk.Locate`).
-/

set_option autoImplicit false

namespace Concordance.Crawl

open Concordance.Disk (Entries Name Node Path)

/-! ## Extensions -/

/-- The last name of a path has one of the extensions. An extension stands behind the last
dot of a name, which begins in front of it, and is compared in ASCII lower case. -/
def HasExtension (extensions : List Text) (path : Path) : Prop :=
  ∃ above stem extension text, path = above ++ [stem ++ 0x2E :: extension] ∧ stem ≠ [] ∧
    0x2E ∉ extension ∧ Utf8.decode? extension = some text ∧ text.lowerAscii ∈ extensions

theorem extension?_concat (above : Path) (name : Name) :
    Disk.Path.extension? (above ++ [name])
      = if ((name.reverse.dropWhile (· ≠ 0x2E)).drop 1).isEmpty then none
        else some (name.reverse.takeWhile (· ≠ 0x2E)).reverse := by
  unfold Disk.Path.extension?
  rw [List.getLast?_append_of_ne_nil _ (List.cons_ne_nil name []), List.getLast?_singleton]
  rfl

/-- The extension of a name stands behind its last dot, unless the name begins there. -/
theorem extension?_of_dot {stem extension : Bytes} (free : 0x2E ∉ extension) (above : Path) :
    Disk.Path.extension? (above ++ [stem ++ 0x2E :: extension])
      = if stem.isEmpty then none else some extension := by
  have passed : ∀ byte ∈ extension.reverse, decide (byte ≠ 0x2E) = true := by
    intro byte member
    exact decide_eq_true (ne_of_mem_of_not_mem (List.mem_reverse.mp member) free)
  have reversed : (stem ++ 0x2E :: extension).reverse
      = extension.reverse ++ 0x2E :: stem.reverse := by simp
  rw [extension?_concat, reversed, List.takeWhile_append_of_pos passed,
    List.dropWhile_append_of_pos passed]
  simp

/-- A name without a dot has no extension. -/
theorem extension?_of_notMem {name : Name} (free : 0x2E ∉ name) (above : Path) :
    Disk.Path.extension? (above ++ [name]) = none := by
  have passed : ∀ byte ∈ name.reverse, decide (byte ≠ 0x2E) = true := by
    intro byte member
    exact decide_eq_true (ne_of_mem_of_not_mem (List.mem_reverse.mp member) free)
  rw [extension?_concat, List.dropWhile_eq_nil_iff.mpr passed]
  rfl

theorem extension?_concat_eq_some_iff {above : Path} {name extension : Bytes} :
    Disk.Path.extension? (above ++ [name]) = some extension ↔
      ∃ stem, name = stem ++ 0x2E :: extension ∧ stem ≠ [] ∧ 0x2E ∉ extension := by
  constructor
  · intro found
    by_cases dot : 0x2E ∈ name
    · obtain ⟨last, before, split, free⟩ :=
        List.eq_append_cons_of_mem (List.mem_reverse.mpr dot)
      have whole : name = before.reverse ++ 0x2E :: last.reverse := by
        rw [← List.reverse_reverse name, split]
        simp
      rw [whole, extension?_of_dot (by simpa using free)] at found
      split at found
      · cases found
      · rename_i nonempty
        cases found
        exact ⟨before.reverse, whole, by simpa using nonempty, by simpa using free⟩
    · rw [extension?_of_notMem dot] at found
      cases found
  · rintro ⟨stem, rfl, nonempty, free⟩
    rw [extension?_of_dot free, if_neg (by simpa using nonempty)]

/-- Settings ask for the files whose names have one of their extensions. -/
theorem wants_iff {config : Config} {path : Path} :
    config.wants path = true ↔ HasExtension config.extensions path := by
  unfold Config.wants Disk.Path.extensionText?
  constructor
  · intro wanted
    split at wanted
    · rename_i lowered found
      obtain ⟨extension, behind, decoded⟩ := Option.bind_eq_some_iff.mp found
      obtain ⟨text, isText, rfl⟩ := Option.map_eq_some_iff.mp decoded
      rcases List.eq_nil_or_concat' path with rfl | ⟨above, name, rfl⟩
      · cases behind
      · obtain ⟨stem, rfl, nonempty, free⟩ := extension?_concat_eq_some_iff.mp behind
        exact ⟨above, stem, extension, text, rfl, nonempty, free, isText,
          List.contains_iff_mem.mp wanted⟩
    · cases wanted
  · rintro ⟨above, stem, extension, text, rfl, nonempty, free, isText, asked⟩
    have behind : Disk.Path.extension? (above ++ [stem ++ 0x2E :: extension]) = some extension :=
      extension?_concat_eq_some_iff.mpr ⟨stem, rfl, nonempty, free⟩
    rw [behind, Option.bind_some, isText]
    exact List.contains_iff_mem.mpr asked

/-! ## What is picked up -/

/-- The path that an entry is queued under: the one that it leads to, or its own if it leads
nowhere. -/
def resolved (disk : Disk) (path : Path) : Path :=
  match disk.locate (Disk.Path.bytes path) with
  | .ok target => target
  | .error _ => path

/-- Whether an entry is a directory or a link to one. -/
def leadsToDirectory (disk : Disk) (path : Path) : Bool :=
  match disk.locate (Disk.Path.bytes path) with
  | .ok target => disk.isDirectory target
  | .error _ => false

/-- The entry at a path is picked up from the directory at `place`: it is below that
directory without any link on the way, is neither a directory nor a link to one, and its own
name has one of the extensions asked for. -/
structure IsPickedUp (disk : Disk) (config : Config) (place path : Path) : Prop where
  below : place <+: path
  entry : ∃ node, disk.node? path = some node ∧ node.isDirectory = false
  notDirectory : leadsToDirectory disk path = false
  extension : HasExtension config.extensions path

/-- Findings are the entries that are picked up below a place, in the order of their paths
and each of them once, under the paths that they are queued under. -/
def ArePickedUp (disk : Disk) (config : Config) (place : Path) (found : List Finding) : Prop :=
  ∃ picked : List Path, picked.Pairwise (· < ·) ∧
    (∀ path, path ∈ picked ↔ IsPickedUp disk config place path) ∧
      found.filterMap Finding.file? = picked.map (resolved disk)

section PickedUp

variable {disk : Disk} {config : Config} {place : Path}

/-- What is not a directory is alone below its own path. -/
theorem isPickedUp_iff_of_node? {node : Node} (found : disk.node? place = some node)
    (notDirectory : node.isDirectory = false) {path : Path} :
    IsPickedUp disk config place path ↔
      path = place ∧ leadsToDirectory disk place = false ∧
        HasExtension config.extensions place := by
  constructor
  · rintro ⟨⟨rest, rfl⟩, ⟨other, entry, _⟩, leads, extension⟩
    cases rest with
    | nil =>
        rw [List.append_nil] at leads extension ⊢
        exact ⟨rfl, leads, extension⟩
    | cons name later =>
        have isDirectory := Disk.isDirectory_of_node?_append entry
        rw [Disk.isDirectory, found] at isDirectory
        exact absurd isDirectory (Bool.eq_false_iff.mp notDirectory)
  · rintro ⟨rfl, leads, extension⟩
    exact ⟨List.prefix_rfl, ⟨node, found, notDirectory⟩, leads, extension⟩

/-- What is picked up from a directory is picked up from one of its entries. -/
theorem isPickedUp_iff_exists_entry {entries : Entries}
    (found : disk.node? place = some (.directory entries))
    (distinct : (entries.map Prod.fst).Nodup) {path : Path} :
    IsPickedUp disk config place path ↔
      ∃ entry ∈ entries, IsPickedUp disk config (place ++ [entry.1]) path := by
  constructor
  · rintro ⟨⟨rest, rfl⟩, ⟨node, entry, notDirectory⟩, leads, extension⟩
    rw [Disk.node?_append, found, Option.bind_some] at entry
    cases rest with
    | nil =>
        cases entry
        cases notDirectory
    | cons name later =>
        obtain ⟨child, listed, led⟩ := Option.bind_eq_some_iff.mp entry
        refine ⟨(name, child), (Disk.lookup_eq_some_iff_mem distinct).mp listed,
          ⟨⟨later, List.append_assoc ..⟩, ⟨node, ?_, notDirectory⟩, leads, extension⟩⟩
        rw [Disk.node?_append, found, Option.bind_some]
        exact entry
  · rintro ⟨entry, _, below, isEntry, leads, extension⟩
    exact ⟨(List.prefix_append place [entry.1]).trans below, isEntry, leads, extension⟩

/-- Paths below one entry come before the paths below a later one. -/
theorem lt_of_prefix_of_lt {first second : Name} (before : first < second) {path later : Path}
    (below : place ++ [first] <+: path) (belowLater : place ++ [second] <+: later) :
    path < later := by
  obtain ⟨rest, rfl⟩ := below
  obtain ⟨others, rfl⟩ := belowLater
  rw [List.append_assoc, List.append_assoc]
  exact List.append_left_lt (List.cons_lt_cons_iff.mpr (.inl before))

/-- Entries in the order of their names give what is picked up from them in the order of its
paths. -/
theorem exists_pickedUp_of_ascending {found : List (Name × List Finding)}
    (ascending : found.Pairwise fun left right => left.1 < right.1)
    (each : ∀ entry ∈ found, ArePickedUp disk config (place ++ [entry.1]) entry.2) :
    ∃ picked : List Path, picked.Pairwise (· < ·) ∧
      (∀ path, path ∈ picked ↔
        ∃ entry ∈ found, IsPickedUp disk config (place ++ [entry.1]) path) ∧
      (found.flatMap (·.2)).filterMap Finding.file? = picked.map (resolved disk) := by
  induction found with
  | nil => exact ⟨[], .nil, by simp, rfl⟩
  | cons first others inductionHypothesis =>
      obtain ⟨beforeOthers, ascendingOthers⟩ := List.pairwise_cons.mp ascending
      obtain ⟨here, sortedHere, mem_here, filesHere⟩ := each first List.mem_cons_self
      obtain ⟨later, sortedLater, mem_later, filesLater⟩ :=
        inductionHypothesis ascendingOthers fun entry member =>
          each entry (List.mem_cons_of_mem _ member)
      refine ⟨here ++ later, List.pairwise_append.mpr ⟨sortedHere, sortedLater, ?_⟩, ?_, ?_⟩
      · -- The names of the entries decide, whatever stands behind them.
        intro path member other memberLater
        obtain ⟨entry, listed, pickedUp⟩ := (mem_later other).mp memberLater
        exact lt_of_prefix_of_lt (beforeOthers entry listed) ((mem_here path).mp member).below
          pickedUp.below
      · intro path
        rw [List.mem_append, mem_here, mem_later, List.exists_mem_cons_iff]
      · rw [List.flatMap_cons, List.filterMap_append, filesHere, filesLater, List.map_append]

theorem map_fst_entryFindings (path : Path) (entries : Entries) :
    (entryFindings disk config path entries).map Prod.fst = entries.map Prod.fst := by
  induction entries with
  | nil => rfl
  | cons entry others inductionHypothesis =>
      rw [entryFindings, List.map_cons, List.map_cons, inductionHypothesis]

theorem exists_mem_entryFindings_iff (path : Path) (entries : Entries) (property : Name → Prop) :
    (∃ entry ∈ entryFindings disk config path entries, property entry.1) ↔
      ∃ entry ∈ entries, property entry.1 := by
  have names : ∀ name, name ∈ (entryFindings disk config path entries).map Prod.fst ↔
      name ∈ entries.map Prod.fst := fun name => by rw [map_fst_entryFindings]
  simp only [List.mem_map] at names
  constructor
  · rintro ⟨entry, member, holds⟩
    obtain ⟨other, listed, same⟩ := (names entry.1).mp ⟨entry, member, rfl⟩
    exact ⟨other, listed, same ▸ holds⟩
  · rintro ⟨entry, member, holds⟩
    obtain ⟨other, listed, same⟩ := (names entry.1).mpr ⟨entry, member, rfl⟩
    exact ⟨other, listed, same ▸ holds⟩

/-- Names that are used once are in strictly ascending order after sorting. -/
theorem pairwise_lt_mergeSort {found : List (Name × List Finding)}
    (distinct : (found.map Prod.fst).Nodup) :
    (found.mergeSort fun left right => decide (left.1 ≤ right.1)).Pairwise
      fun left right => left.1 < right.1 := by
  have sorted : (found.mergeSort fun left right => decide (left.1 ≤ right.1)).Pairwise
      fun left right => decide (left.1 ≤ right.1) = true :=
    List.pairwise_mergeSort (fun first second third => by simpa using List.le_trans)
      (fun first second => by simpa using List.le_total first.1 second.1) found
  have apart := ((List.mergeSort_perm found
    fun left right => decide (left.1 ≤ right.1)).map Prod.fst).nodup_iff.mpr distinct
  have differs := List.pairwise_map.mp apart
  refine (sorted.and differs).imp fun both => ?_
  exact Std.lt_of_le_of_ne (of_decide_eq_true both.1) both.2

/-- What is found at a directory is picked up there if what is found at each of its entries is
picked up at that entry. -/
theorem arePickedUp_inOrder {entries : Entries}
    (found : disk.node? place = some (.directory entries))
    (distinct : (entries.map Prod.fst).Nodup)
    (each : ∀ entry ∈ entryFindings disk config place entries,
      ArePickedUp disk config (place ++ [entry.1]) entry.2) :
    ArePickedUp disk config place (inOrder (entryFindings disk config place entries)) := by
  have names : (entryFindings disk config place entries).map Prod.fst = entries.map Prod.fst :=
    map_fst_entryFindings place entries
  have ascending := pairwise_lt_mergeSort (names ▸ distinct)
  have permuted := List.mergeSort_perm (entryFindings disk config place entries)
    fun left right => decide (left.1 ≤ right.1)
  obtain ⟨picked, sorted, mem_picked, files⟩ := exists_pickedUp_of_ascending ascending
    fun entry member => each entry (permuted.mem_iff.mp member)
  refine ⟨picked, sorted, fun path => ?_, files⟩
  have below : (∃ entry ∈ entryFindings disk config place entries,
      IsPickedUp disk config (place ++ [entry.1]) path) ↔
        ∃ entry ∈ entries, IsPickedUp disk config (place ++ [entry.1]) path :=
    exists_mem_entryFindings_iff place entries
      fun name => IsPickedUp disk config (place ++ [name]) path
  rw [mem_picked, isPickedUp_iff_exists_entry found distinct, ← below]
  simp only [permuted.mem_iff]

/-- What is not a directory is picked up or not, on its own. -/
theorem arePickedUp_of_node? {node : Node} (found : disk.node? place = some node)
    (notDirectory : node.isDirectory = false) {findings : List Finding}
    (files : findings.filterMap Finding.file?
      = if leadsToDirectory disk place = false ∧ config.wants place = true
        then [resolved disk place] else []) :
    ArePickedUp disk config place findings := by
  have alone : ∀ path, IsPickedUp disk config place path ↔
      path = place ∧ leadsToDirectory disk place = false ∧ config.wants place = true :=
    fun path => by rw [wants_iff, isPickedUp_iff_of_node? found notDirectory]
  by_cases asked : leadsToDirectory disk place = false ∧ config.wants place = true
  · rw [if_pos asked] at files
    refine ⟨[place], List.pairwise_singleton _ _, fun path => ?_, files⟩
    rw [List.mem_singleton, alone, and_iff_left asked]
  · rw [if_neg asked] at files
    refine ⟨[], .nil, fun path => ?_, files⟩
    rw [alone]
    exact iff_of_false List.not_mem_nil fun pickedUp => asked pickedUp.2

/-- A file is queued under its own path. -/
theorem resolved_of_isFile (tidy : disk.isTidy = true) {node : Node}
    (found : disk.node? place = some node) (isFile : node.isFile = true) :
    resolved disk place = place ∧ leadsToDirectory disk place = false := by
  obtain ⟨_, names⟩ := Disk.Node.isTidy_of_at? tidy found
  have nonempty : place ≠ [] := by
    rintro rfl
    cases found
    cases isFile
  have notLink : ∀ target, node ≠ .link target := by
    rintro target rfl
    cases isFile
  have notDirectory : disk.isDirectory place = false := by
    rw [Disk.isDirectory, found]
    cases node with
    | file content
    | guarded content => rfl
    | link target
    | directory entries => cases isFile
  unfold resolved leadsToDirectory
  rcases Disk.locate_bytes nonempty names found notLink with located | ⟨fault, missing⟩
  · rw [located]
    exact ⟨rfl, notDirectory⟩
  · rw [missing]
    exact ⟨rfl, rfl⟩

/-- A link is queued under the path of the file that it leads to, and passed over if it leads
to a directory. -/
theorem filterMap_linkFinding? :
    (linkFinding? disk config place).toList.filterMap Finding.file?
      = if leadsToDirectory disk place = false ∧ config.wants place = true
        then [resolved disk place] else [] := by
  unfold linkFinding? leadsToDirectory resolved
  cases disk.locate (Disk.Path.bytes place) with
  | error fault => cases wanted : config.wants place <;> rfl
  | ok target =>
      cases isDirectory : disk.isDirectory target
      · cases wanted : config.wants place <;> simp [isDirectory, Finding.file?]
      · simp [isDirectory, Finding.file?]

mutual

/-- What is found at a node of a disk in good order is what is picked up there. -/
theorem arePickedUp_nodeFindings (tidy : disk.isTidy = true) (path : Path) (node : Node)
    (found : disk.node? path = some node) :
    ArePickedUp disk config path (nodeFindings disk config path node) := by
  cases node with
  | file content
  | guarded content =>
      refine arePickedUp_of_node? found rfl ?_
      obtain ⟨same, leads⟩ := resolved_of_isFile tidy found rfl
      rw [nodeFindings, same, leads]
      cases config.wants path <;> rfl
  | link target =>
      refine arePickedUp_of_node? found rfl ?_
      rw [nodeFindings]
      exact filterMap_linkFinding?
  | directory entries =>
      have good := (Disk.Node.isTidy_of_at? tidy found).1
      simp only [Node.isTidy, Bool.and_eq_true, decide_eq_true_eq] at good
      rw [nodeFindings]
      refine arePickedUp_inOrder found good.1 ?_
      apply arePickedUp_entryFindings tidy path entries
      intro entry member
      rw [Disk.node?_append, found, Option.bind_some]
      have listed := (Disk.lookup_eq_some_iff_mem good.1).mpr member
      change (entries.lookup entry.1).bind (Node.at? []) = some entry.2
      rw [listed]
      rfl

theorem arePickedUp_entryFindings (tidy : disk.isTidy = true) (path : Path)
    (entries : Entries)
    (found : ∀ entry ∈ entries, disk.node? (path ++ [entry.1]) = some entry.2) :
    ∀ entry ∈ entryFindings disk config path entries,
      ArePickedUp disk config (path ++ [entry.1]) entry.2 := by
  cases entries with
  | nil => exact fun entry member => absurd member List.not_mem_nil
  | cons first others =>
      rw [entryFindings]
      refine List.forall_mem_cons.mpr ⟨?_, ?_⟩
      · exact arePickedUp_nodeFindings tidy (path ++ [first.1]) first.2
          (found first List.mem_cons_self)
      · exact arePickedUp_entryFindings tidy path others fun entry member =>
          found entry (List.mem_cons_of_mem _ member)

end

theorem arePickedUp_findings (tidy : disk.isTidy = true)
    (isDirectory : disk.isDirectory place = true) :
    ArePickedUp disk config place (findings disk config place) := by
  obtain ⟨entries, found⟩ := Disk.exists_of_isDirectory isDirectory
  have same : findings disk config place
      = nodeFindings disk config place (.directory entries) := by
    rw [findings, found, nodeFindings]
  rw [same]
  exact arePickedUp_nodeFindings tidy place _ found

end PickedUp

/-! ## Queueing -/

theorem newPaths_eq_eraseDups (seen : Finset Path) (paths : List Path) :
    newPaths seen paths = (paths.filter fun path => decide (path ∉ seen)).eraseDups := by
  induction paths generalizing seen with
  | nil => rfl
  | cons path others inductionHypothesis =>
      rw [newPaths]
      by_cases known : path ∈ seen
      · rw [if_pos known, inductionHypothesis, List.filter_cons_of_neg (by simpa using known)]
      · rw [if_neg known, inductionHypothesis, List.filter_cons_of_pos (by simpa using known),
          List.eraseDups_cons, List.filter_filter]
        refine congrArg (fun rest => path :: rest.eraseDups)
          (List.filter_congr fun other _ => ?_)
        rw [Bool.eq_iff_iff]
        simp [not_or]

section Queue

variable (progress : Progress) (paths : List Path)

theorem Progress.matches_search :
    progress.Matches progress.crawler.config
      (progress.crawler.search.requeue progress.queue) :=
  ⟨⟨rfl, rfl, progress.crawler.agrees_search.seen, rfl⟩, rfl⟩

/-- Queueing appends the paths that have not been queued before, each once, in the order in
which they come first. -/
theorem Progress.queue_foldl_enqueue :
    (paths.foldl Progress.enqueue progress).queue
      = progress.queue
        ++ (paths.filter fun path => !progress.crawler.seen.contains path).eraseDups := by
  have together := progress.matches_search
  rw [(together.foldl_enqueue paths).queue]
  change progress.queue ++ newPaths _ paths = _
  rw [newPaths_eq_eraseDups]
  refine congrArg (fun new => progress.queue ++ new.eraseDups)
    (List.filter_congr fun path _ => ?_)
  rw [Bool.eq_iff_iff, decide_eq_true_iff, Bool.not_eq_true', ← Bool.not_eq_true,
    together.contains_iff]

theorem Progress.mem_seen_foldl_enqueue (path : Path) :
    path ∈ (paths.foldl Progress.enqueue progress).crawler.seen ↔
      path ∈ progress.crawler.seen ∨ path ∈ paths := by
  have together := progress.matches_search
  rw [(together.foldl_enqueue paths).agrees.seen path, together.agrees.seen path]
  change path ∈ _ ∪ paths.toFinset ↔ _
  rw [Finset.mem_union, List.mem_toFinset]

/-- Queueing changes nothing that a crawler knows but what it has seen. -/
theorem Progress.crawler_foldl_enqueue :
    (paths.foldl Progress.enqueue progress).crawler
      = { progress.crawler with
          seen := (paths.foldl Progress.enqueue progress).crawler.seen } := by
  induction paths generalizing progress with
  | nil => rfl
  | cons path others inductionHypothesis =>
      rw [List.foldl_cons, inductionHypothesis]
      unfold Progress.enqueue
      split <;> rfl

end Queue

/-- The progress after a directory is expanded: what is found below it is queued. -/
def Progress.expand (disk : Disk) (progress : Progress) (place : Path) : Progress :=
  ((findings disk progress.crawler.config place).filterMap Finding.file?).foldl
    Progress.enqueue progress

/-- A seed that leads to a directory expands it. -/
theorem plant_of_isDirectory {disk : Disk} {progress : Progress} {seed : Text} {place : Path}
    (led : seedPath disk seed = .ok place) (isDirectory : disk.isDirectory place = true)
    (others : List Text) :
    (plant disk progress (seed :: others)).1 = (plant disk (progress.expand disk place) others).1 ∧
      (plant disk progress (seed :: others)).2.1
        = (plant disk (progress.expand disk place) others).2.1 := by
  rw [plant, led]
  dsimp only
  rw [if_pos isDirectory]
  exact ⟨rfl, rfl⟩

/-- Expanding a directory appends to the queue the files that are picked up below it, in the
order of the paths of their entries, each under the path that it leads to, and without those
that have been queued before. It marks them as seen and changes nothing else. -/
theorem expand_queues_in_order {disk : Disk} (tidy : disk.isTidy = true) {place : Path}
    (isDirectory : disk.isDirectory place = true) (progress : Progress) :
    let expanded := progress.expand disk place
    ∃ picked : List Path, picked.Pairwise (· < ·) ∧
      (∀ path, path ∈ picked ↔ IsPickedUp disk progress.crawler.config place path) ∧
      expanded.queue = progress.queue
        ++ ((picked.map (resolved disk)).filter
            fun path => !progress.crawler.seen.contains path).eraseDups ∧
      (∀ path, path ∈ expanded.crawler.seen ↔
        path ∈ progress.crawler.seen ∨ path ∈ picked.map (resolved disk)) ∧
      expanded.crawler = { progress.crawler with seen := expanded.crawler.seen } ∧
      ∀ seed others, seedPath disk seed = .ok place →
        (plant disk progress (seed :: others)).1 = (plant disk expanded others).1 ∧
          (plant disk progress (seed :: others)).2.1 = (plant disk expanded others).2.1 := by
  intro expanded
  have found : ArePickedUp disk progress.crawler.config place
      (findings disk progress.crawler.config place) := arePickedUp_findings tidy isDirectory
  obtain ⟨picked, sorted, mem_picked, files⟩ := found
  have queued : expanded = (picked.map (resolved disk)).foldl Progress.enqueue progress := by
    rw [← files]
    rfl
  refine ⟨picked, sorted, mem_picked, ?_, fun path => ?_, ?_,
    fun seed others led => plant_of_isDirectory led isDirectory others⟩
  · rw [queued]
    exact progress.queue_foldl_enqueue _
  · rw [queued]
    exact progress.mem_seen_foldl_enqueue _ path
  · rw [queued]
    exact progress.crawler_foldl_enqueue _

/-- A directory beside links to a file, to nothing, to themselves and to the directory. As a
text the path into the directory would come behind the name of the first link. -/
def album : Disk where
  entries :=
    [(Utf8.encode "a", .directory [(Utf8.encode "b.txt", .file (Utf8.encode "one"))]),
      (Utf8.encode "a.txt", .link (Utf8.encode "f.HTM")),
      (Utf8.encode "b.txt", .link (Utf8.encode "nowhere")),
      (Utf8.encode "c.txt", .link (Utf8.encode "c.txt")),
      (Utf8.encode "d.txt", .link (Utf8.encode "a")),
      (Utf8.encode "e.pdf", .file (Utf8.encode "two")),
      (Utf8.encode "f.HTM", .file (Utf8.encode "three"))]
  current := []

theorem findings_album :
    findings album .initial []
      = [.file [Utf8.encode "a", Utf8.encode "b.txt"], .file [Utf8.encode "f.HTM"],
          .file [Utf8.encode "b.txt"], .file [Utf8.encode "c.txt"],
          .passedOver [Utf8.encode "d.txt"], .file [Utf8.encode "f.HTM"]] := by
  have inside : nodeFindings album .initial [Utf8.encode "a"]
      (.directory [(Utf8.encode "b.txt", .file (Utf8.encode "one"))])
      = [.file [Utf8.encode "a", Utf8.encode "b.txt"]] := by
    rw [nodeFindings, inOrder_of_pairwise (by decide +kernel)]
    decide +kernel
  have outside : entryFindings album .initial [] album.entries
      = [(Utf8.encode "a", [.file [Utf8.encode "a", Utf8.encode "b.txt"]]),
          (Utf8.encode "a.txt", [.file [Utf8.encode "f.HTM"]]),
          (Utf8.encode "b.txt", [.file [Utf8.encode "b.txt"]]),
          (Utf8.encode "c.txt", [.file [Utf8.encode "c.txt"]]),
          (Utf8.encode "d.txt", [.passedOver [Utf8.encode "d.txt"]]),
          (Utf8.encode "e.pdf", []),
          (Utf8.encode "f.HTM", [.file [Utf8.encode "f.HTM"]])] := by
    rw [album, entryFindings]
    refine congrArg₂ (fun first others => (_, first) :: others) inside ?_
    decide +kernel
  change inOrder (entryFindings album .initial [] album.entries) = _
  rw [outside, inOrder_of_pairwise (by decide +kernel)]
  rfl

/-- The file in the directory comes first, the alias is queued under the path of the file it
leads to, which is not queued again, and the links that lead nowhere under their own. -/
theorem expand_queues_in_order_album :
    let expanded := Progress.expand album ⟨Crawler.new .initial, []⟩ []
    expanded.queue = [[Utf8.encode "a", Utf8.encode "b.txt"], [Utf8.encode "f.HTM"],
        [Utf8.encode "b.txt"], [Utf8.encode "c.txt"]] ∧
      ∃ picked : List Path, picked.Pairwise (· < ·) ∧
        (∀ path, path ∈ picked ↔ IsPickedUp album .initial [] path) ∧
        expanded.queue = (picked.map (resolved album)).eraseDups ∧
        (plant album ⟨Crawler.new .initial, []⟩ ["/"]).1.queue = expanded.queue := by
  intro expanded
  have tidy : album.isTidy = true := by decide +kernel
  have isDirectory : album.isDirectory [] = true := rfl
  have led : seedPath album "/" = .ok [] := by decide +kernel
  obtain ⟨picked, sorted, mem_picked, queue, _, _, planted⟩ :=
    expand_queues_in_order tidy isDirectory ⟨Crawler.new .initial, []⟩
  have listed : expanded.queue = [[Utf8.encode "a", Utf8.encode "b.txt"],
      [Utf8.encode "f.HTM"], [Utf8.encode "b.txt"], [Utf8.encode "c.txt"]] := by
    change (((findings album .initial []).filterMap Finding.file?).foldl Progress.enqueue
      ⟨Crawler.new .initial, []⟩).queue = _
    rw [findings_album]
    decide +kernel
  refine ⟨listed, picked, sorted, mem_picked, ?_, congrArg Progress.queue (planted "/" [] led).1⟩
  have all : (picked.map (resolved album)).filter
      (fun path => !(∅ : Std.ExtTreeSet Path).contains path) = picked.map (resolved album) :=
    List.filter_eq_self.mpr fun path _ => by simp
  rw [← all]
  exact queue

end Concordance.Crawl
