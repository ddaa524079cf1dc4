import Concordance.Proofs.Disk.Writing

/-!
Contract: what else is on a disk when a file is written.

One path leads to the new file afterwards, and no path leads through a file. So every other path
leads where it led before, through the same links and directories, and what is read there is what
was read.

Owns:
- disks that are the same but for the file at one path;
- walks that end elsewhere, and what is read there.

Does not own: where the file comes to be, and that it is read back
(`Concordance.Proofs.Disk.Writing`).
-/

set_option autoImplicit false

namespace Concordance.Disk

/-- A disk that is the same as another but for the file at a path: at every other path there is
the same file, the same link, a directory or nothing, and the written paths that lead to other
files give the same content. -/
structure KeepsBeside (disk : Disk) (path : Path) (changed : Disk) : Prop where
  current : changed.current = disk.current
  nodes : ∀ other, other ≠ path →
    (changed.node? other).map Node.outline = (disk.node? other).map Node.outline
  contents : ∀ bytes, changed.locate bytes ≠ .ok path →
    ∀ content, changed.read bytes = .ok content ↔ disk.read bytes = .ok content

theorem contentAt_congr {disk other : Disk} {path : Path}
    (same : (other.node? path).map Node.outline = (disk.node? path).map Node.outline) :
    other.contentAt path = disk.contentAt path := by
  unfold contentAt
  cases here : disk.node? path with
  | none =>
      rw [here, Option.map_none, Option.map_eq_none_iff] at same
      rw [same]
  | some node =>
      rw [here, Option.map_some] at same
      obtain ⟨later, there, alike⟩ := Option.map_eq_some_iff.mp same
      rw [there]
      cases node <;> cases later <;> cases alike <;> rfl

section Put

variable {disk : Disk} {path : Path} (content : Bytes)

/-! ## Walks that end elsewhere -/

theorem not_isDirectory_of_takesFile (takes : disk.TakesFile path) :
    disk.isDirectory path = false := by
  obtain ⟨place, name, same, _, free⟩ := takes
  unfold isDirectory node?
  rcases free with none | ⟨old, file⟩
  · rw [none]
    rfl
  · rw [file]
    rfl

/-- An entry other than the new file was there before, and it is a link exactly if it was. -/
theorem exists_entry_of_put (takes : disk.TakesFile path) {place : Path} {name : Name} {node : Node}
    (apart : place ++ [name] ≠ path)
    (found : (disk.put path (.file content)).entry place name = .ok node) :
    ∃ earlier, disk.entry place name = .ok earlier ∧
      ∀ target, earlier = .link target ↔ node = .link target := by
  have outlined := outline_node?_put content takes apart
  unfold entry at found ⊢
  split at found
  · cases found
  · rename_i short
    rw [if_neg short]
    split at found
    · cases found
    · rename_i there
      cases found
      rw [there, Option.map_some] at outlined
      obtain ⟨earlier, here, alike⟩ := Option.map_eq_some_iff.mp outlined.symm
      rw [here]
      refine ⟨earlier, rfl, fun target => ?_⟩
      rw [← Node.outline_eq_link_iff, alike, Node.outline_eq_link_iff]

/-- No steps lead on from the new file. -/
theorem walkBy_put_self (takes : disk.TakesFile path) {links : Nat}
    {follow : Path → List Step → Except Fault Arrival} {steps : List Step} {arrival : Arrival}
    (arrived : (disk.put path (.file content)).walkBy links follow path steps = .ok arrival) :
    arrival.place = path := by
  cases steps with
  | nil =>
      rw [walkBy] at arrived
      cases arrived
      rfl
  | cons step rest =>
      rw [walkBy.eq_def] at arrived
      simp [isDirectory_put content takes, not_isDirectory_of_takesFile takes] at arrived

/-- Steps that lead elsewhere than to the new file led there before. -/
theorem walkBy_of_put (takes : disk.TakesFile path) {links : Nat}
    {follow earlier : Path → List Step → Except Fault Arrival} {place : Path} {steps : List Step}
    {arrival : Arrival}
    (followed : ∀ {start : Path} {steps : List Step},
      follow start steps = .ok arrival → earlier start steps = .ok arrival)
    (elsewhere : arrival.place ≠ path)
    (arrived : (disk.put path (.file content)).walkBy links follow place steps = .ok arrival) :
    disk.walkBy links earlier place steps = .ok arrival := by
  have directories := isDirectory_put content takes
  fun_induction walkBy (disk.put path (.file content)) links follow place steps with
  | case1 place => exact arrived
  | case2 => cases arrived
  | case3 place rest inside inductionHypothesis =>
      rw [directories] at inside
      rw [walkBy, if_neg inside]
      exact inductionHypothesis arrived
  | case4 place rest inside inductionHypothesis =>
      rw [directories] at inside
      rw [walkBy, if_neg inside]
      exact inductionHypothesis arrived
  | case5 => cases arrived
  | case6 place rest inside name target found route =>
      have apart : place ++ [name] ≠ path := by
        intro same
        have there := node?_of_entry found
        rw [same, node?_put_self content takes] at there
        cases there
      obtain ⟨node, here, linked⟩ := exists_entry_of_put content takes apart found
      rw [directories] at inside
      rw [walkBy, if_neg inside, here, (linked target).mpr rfl]
      exact followed arrived
  | case7 place rest inside name node notLink found inductionHypothesis =>
      by_cases apart : place ++ [name] = path
      · rw [apart] at arrived
        exact absurd (walkBy_put_self content takes arrived) elsewhere
      · obtain ⟨node, here, linked⟩ := exists_entry_of_put content takes apart found
        rw [directories] at inside
        rw [walkBy, if_neg inside, here]
        cases node with
        | file content
        | guarded content => exact inductionHypothesis arrived
        | link target => exact absurd ((linked target).mp rfl) (notLink target)
        | directory entries => exact inductionHypothesis arrived

theorem walk_of_put (takes : disk.TakesFile path) {links : Nat} {place : Path} {steps : List Step}
    {arrival : Arrival} (elsewhere : arrival.place ≠ path)
    (arrived : (disk.put path (.file content)).walk links place steps = .ok arrival) :
    disk.walk links place steps = .ok arrival := by
  induction links generalizing place steps with
  | zero => exact walkBy_of_put content takes (fun failed => by cases failed) elsewhere arrived
  | succ fewer inductionHypothesis =>
      exact walkBy_of_put content takes (fun later => inductionHypothesis later) elsewhere arrived

/-! ## Written paths -/

/-- A written path leads where it led, whatever is written there. -/
theorem locate_put (takes : disk.TakesFile path) {bytes : Bytes} {place : Path}
    (located : disk.locate bytes = .ok place) :
    (disk.put path (.file content)).locate bytes = .ok place := by
  obtain ⟨route, links, accepted, arrived⟩ := locate_eq_ok_iff.mp located
  refine locate_eq_ok_iff.mpr ⟨route, links, accepted, ?_⟩
  rw [current_put]
  exact walk_put content takes arrived

theorem locate_of_put (takes : disk.TakesFile path) {bytes : Bytes} {place : Path}
    (elsewhere : place ≠ path)
    (located : (disk.put path (.file content)).locate bytes = .ok place) :
    disk.locate bytes = .ok place := by
  obtain ⟨route, links, accepted, arrived⟩ := locate_eq_ok_iff.mp located
  rw [current_put] at arrived
  exact locate_eq_ok_iff.mpr ⟨route, links, accepted, walk_of_put content takes elsewhere arrived⟩

/-- What is read where the new file is not is what was read there before. -/
theorem read_put_iff (takes : disk.TakesFile path) {bytes : Bytes}
    (elsewhere : (disk.put path (.file content)).locate bytes ≠ .ok path) (found : Bytes) :
    (disk.put path (.file content)).read bytes = .ok found ↔ disk.read bytes = .ok found := by
  have alike : ∀ {place}, (disk.put path (.file content)).locate bytes = .ok place →
      place ≠ path ∧
        (disk.put path (.file content)).contentAt place = disk.contentAt place := by
    intro place later
    have apart : place ≠ path := by
      rintro rfl
      exact elsewhere later
    exact ⟨apart, contentAt_congr (outline_node?_put content takes apart)⟩
  rw [read_eq_ok_iff, read_eq_ok_iff]
  constructor
  · rintro ⟨place, opens, there⟩
    obtain ⟨apart, same⟩ := alike opens.leads
    exact ⟨place, ⟨locate_of_put content takes apart opens.leads, opens.short⟩,
      same.symm.trans there⟩
  · rintro ⟨place, opens, there⟩
    have later := locate_put content takes opens.leads
    exact ⟨place, ⟨later, opens.short⟩, (alike later).2.trans there⟩

theorem keepsBeside_put (takes : disk.TakesFile path) :
    disk.KeepsBeside path (disk.put path (.file content)) where
  current := current_put content
  nodes _ apart := outline_node?_put content takes apart
  contents _ elsewhere := read_put_iff content takes elsewhere

end Put

/-- A file that is written replaces the one to which the written path led, if it led anywhere. -/
theorem WritesAt.eq_of_locate {disk : Disk} {bytes : Bytes} {path place : Path}
    (writes : disk.WritesAt bytes path) (located : disk.locate bytes = .ok place) :
    place = path := by
  have kept := locate_put [] writes.takes located
  exact Except.ok.inj (kept.symm.trans (writes.opens []).leads)

end Concordance.Disk
