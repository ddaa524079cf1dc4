import Concordance.Proofs.Disk.Tree

/-!
Contract: writing a file and reading it back.

A file is written at a path that is new or a file, in a directory that is there. Whatever led
somewhere on the disk before leads there afterwards, and what led to the new file by its links
and names leads to the content.

Owns:
- the tree with a node at a path, seen from every path;
- walks on a disk that has been written to;
- whether and where a written path lets a file be written, and that it is read back.

Does not own: which indexes are read back from files (`Concordance.Proofs.Storage.Saving`).
-/

set_option autoImplicit false

namespace Concordance.Disk

/-! ## Trees with a node put in -/

/-- A node without what is below it. -/
def Node.outline : Node → Node
  | directory _ => directory []
  | other => other

theorem Node.outline_eq_link_iff (node : Node) (target : Bytes) :
    node.outline = .link target ↔ node = .link target := by
  cases node <;> simp [outline]

theorem lookup_change (name : Name) (change : Option Node → Node) (entries : Entries)
    (other : Name) :
    (Entries.change name change entries).lookup other
      = if other = name then some (change (entries.lookup name)) else entries.lookup other := by
  induction entries with
  | nil =>
      rw [Entries.change, List.lookup_cons]
      by_cases same : other = name
      · rw [beq_iff_eq.mpr same, if_pos same]
        rfl
      · rw [beq_eq_false_iff_ne.mpr same, if_neg same]
  | cons entry others inductionHypothesis =>
      rw [Entries.change]
      by_cases here : entry.1 = name
      · rw [if_pos here, List.lookup_cons, List.lookup_cons, List.lookup_cons, here,
          beq_self_eq_true]
        by_cases same : other = name
        · rw [beq_iff_eq.mpr same, if_pos same]
        · rw [beq_eq_false_iff_ne.mpr same, if_neg same]
      · rw [if_neg here, List.lookup_cons, List.lookup_cons, List.lookup_cons,
          beq_eq_false_iff_ne.mpr (Ne.symm here), inductionHypothesis]
        by_cases same : other = name
        · rw [same, beq_eq_false_iff_ne.mpr (Ne.symm here), if_pos rfl]
        · rw [if_neg same, if_neg same]

/-- A node that is written to: the file at its path can be replaced, or there is none yet. -/
def Node.IsFree (root : Node) (path : Path) : Prop :=
  root.at? path = none ∨ ∃ content, root.at? path = some (.file content)

theorem Node.place_cons (node : Node) (name : Name) (rest : Path) (entries : Entries) :
    node.place (name :: rest) (.directory entries)
      = .directory (Entries.change name
          (fun child => node.place rest (child.getD (.directory []))) entries) := by
  rw [Node.place]

theorem Node.at?_cons (name : Name) (rest : Path) (entries : Entries) :
    (Node.directory entries).at? (name :: rest) = (entries.lookup name).bind (Node.at? rest) :=
  rfl

/-- Nothing is below a free name. -/
theorem Node.IsFree.at?_below {entries : Entries} {name : Name}
    (free : (Node.directory entries).IsFree [name]) {rest : Path} (nonempty : rest ≠ []) :
    (Node.directory entries).at? (name :: rest) = none := by
  obtain ⟨next, more, rfl⟩ := List.exists_cons_of_ne_nil nonempty
  rw [Node.IsFree, Node.at?_cons] at free
  rw [Node.at?_cons]
  cases found : entries.lookup name with
  | none => rfl
  | some child =>
      rw [found] at free
      rcases free with none | ⟨old, file⟩
      · cases none
      · cases file
        rfl

/-- The node that is put at a path is found there. -/
theorem Node.at?_place {place : Path} {root : Node} {entries : Entries}
    (inside : root.at? place = some (.directory entries)) (name : Name) (node : Node) :
    (node.place (place ++ [name]) root).at? (place ++ [name]) = some node := by
  induction place generalizing root with
  | nil =>
      cases inside
      rw [List.nil_append, Node.place_cons, Node.at?_cons, lookup_change, if_pos rfl]
      rw [Node.place]
      rfl
  | cons first others inductionHypothesis =>
      cases root with
      | file content
      | guarded content => cases inside
      | link target => cases inside
      | directory within =>
          rw [Node.at?_cons] at inside
          obtain ⟨child, found, below⟩ := Option.bind_eq_some_iff.mp inside
          rw [List.cons_append, Node.place_cons, Node.at?_cons, lookup_change, if_pos rfl, found]
          exact inductionHypothesis below

/-- Putting a file at a free path leaves the outline of the tree at every other path. -/
theorem Node.outline_at?_place {place : Path} {root : Node} {entries : Entries}
    (inside : root.at? place = some (.directory entries)) {name : Name}
    (free : root.IsFree (place ++ [name])) (content : Bytes) {path : Path}
    (other : path ≠ place ++ [name]) :
    (((Node.file content).place (place ++ [name]) root).at? path).map outline
      = (root.at? path).map outline := by
  induction place generalizing root path with
  | nil =>
      cases inside
      rw [List.nil_append] at free other ⊢
      rw [Node.place_cons]
      cases path with
      | nil => rfl
      | cons first rest =>
          rw [Node.at?_cons, Node.at?_cons, lookup_change]
          split
          · rename_i same
            subst same
            have nonempty : rest ≠ [] := by
              rintro rfl
              exact other rfl
            rw [← Node.at?_cons first rest entries, free.at?_below nonempty, Node.place]
            obtain ⟨next, more, rfl⟩ := List.exists_cons_of_ne_nil nonempty
            rfl
          · rfl
  | cons first others inductionHypothesis =>
      cases root with
      | file content
      | guarded content => cases inside
      | link target => cases inside
      | directory within =>
          rw [Node.at?_cons] at inside
          obtain ⟨child, found, below⟩ := Option.bind_eq_some_iff.mp inside
          rw [List.cons_append] at free other ⊢
          rw [Node.place_cons]
          cases path with
          | nil => rfl
          | cons next rest =>
              rw [Node.at?_cons, Node.at?_cons, lookup_change]
              split
              · rename_i same
                subst same
                rw [found]
                apply inductionHypothesis below
                · rwa [Node.IsFree, Node.at?_cons, found] at free
                · exact fun same => other (congrArg _ same)
              · rfl

/-! ## Disks with a file put in -/

/-- A path where a file can be written: in a directory, at a name that is new or that of a
file. -/
def TakesFile (disk : Disk) (path : Path) : Prop :=
  ∃ place name, path = place ++ [name] ∧ disk.isDirectory place = true ∧ disk.top.IsFree path

section Put

variable {disk : Disk} {path : Path} (content : Bytes)

theorem top_put (takes : disk.TakesFile path) :
    (disk.put path (.file content)).top = (Node.file content).place path disk.top := by
  obtain ⟨place, name, rfl, _⟩ := takes
  obtain ⟨first, rest, split⟩ := List.exists_cons_of_ne_nil (List.concat_ne_nil name place)
  have tree : disk.top = .directory disk.entries := rfl
  rw [split, put, tree, Node.place_cons]
  rfl

theorem current_put : (disk.put path (.file content)).current = disk.current := by
  unfold put
  split <;> rfl

theorem node?_put_self (takes : disk.TakesFile path) :
    (disk.put path (.file content)).node? path = some (.file content) := by
  have whole := top_put content takes
  obtain ⟨place, name, rfl, inside, free⟩ := takes
  obtain ⟨entries, found⟩ := exists_of_isDirectory inside
  rw [node?, whole]
  exact Node.at?_place found name _

theorem outline_node?_put (takes : disk.TakesFile path) {other : Path} (apart : other ≠ path) :
    ((disk.put path (.file content)).node? other).map Node.outline
      = (disk.node? other).map Node.outline := by
  have whole := top_put content takes
  obtain ⟨place, name, rfl, inside, free⟩ := takes
  obtain ⟨entries, found⟩ := exists_of_isDirectory inside
  rw [node?, whole]
  exact Node.outline_at?_place found free content apart

theorem isDirectory_put (takes : disk.TakesFile path) (place : Path) :
    (disk.put path (.file content)).isDirectory place = disk.isDirectory place := by
  by_cases here : place = path
  · subst here
    unfold isDirectory
    rw [node?_put_self content takes]
    obtain ⟨_, _, _, _, none | ⟨old, file⟩⟩ := takes
    · rw [node?, none]
      rfl
    · rw [node?, file]
      rfl
  · have outlined : ∀ node : Node, node.isDirectory = node.outline.isDirectory := by
      intro node
      cases node <;> rfl
    have seen : ∀ other : Disk, other.isDirectory place
        = (((other.node? place).map Node.outline).map Node.isDirectory).getD false := by
      intro other
      rw [isDirectory, Option.map_map]
      congr 2
      funext node
      exact outlined node
    rw [seen, seen, outline_node?_put content takes here]

/-- What an entry leads to is a link afterwards exactly if it was that link before. -/
theorem exists_entry_put (takes : disk.TakesFile path) {place : Path} {name : Name} {node : Node}
    (found : disk.entry place name = .ok node) :
    ∃ later, (disk.put path (.file content)).entry place name = .ok later ∧
      ∀ target, later = .link target ↔ node = .link target := by
  unfold entry at found ⊢
  split at found
  · cases found
  · rename_i short
    rw [if_neg short]
    split at found
    · cases found
    · rename_i here
      cases found
      by_cases same : place ++ [name] = path
      · rw [same] at here ⊢
        rw [node?_put_self content takes]
        refine ⟨_, rfl, fun target => ?_⟩
        obtain ⟨_, _, _, _, none | ⟨old, file⟩⟩ := takes
        · cases here.symm.trans none
        · cases here.symm.trans file
          exact iff_of_false nofun nofun
      · have outlined := outline_node?_put content takes same
        rw [here, Option.map_some, Option.map_eq_some_iff] at outlined
        obtain ⟨later, there, alike⟩ := outlined
        rw [there]
        refine ⟨later, rfl, fun target => ?_⟩
        rw [← Node.outline_eq_link_iff, alike, Node.outline_eq_link_iff]

end Put

/-! ## Walks -/

section Walks

variable {disk : Disk} {path : Path} (content : Bytes)

/-- Steps that lead somewhere lead there after a file is put in. -/
theorem walkBy_put (takes : disk.TakesFile path) {links : Nat}
    {follow later : Path → List Step → Except Fault Arrival} {place : Path} {steps : List Step}
    {arrival : Arrival}
    (followed : ∀ {start : Path} {steps : List Step} {arrival : Arrival},
      follow start steps = .ok arrival → later start steps = .ok arrival)
    (arrived : disk.walkBy links follow place steps = .ok arrival) :
    (disk.put path (.file content)).walkBy links later place steps = .ok arrival := by
  have directories := isDirectory_put content takes
  fun_induction walkBy disk links follow place steps with
  | case1 place => exact arrived
  | case2 => cases arrived
  | case3 place rest inside inductionHypothesis =>
      rw [walkBy, directories, if_neg inside]
      exact inductionHypothesis arrived
  | case4 place rest inside inductionHypothesis =>
      rw [walkBy, directories, if_neg inside]
      exact inductionHypothesis arrived
  | case5 => cases arrived
  | case6 place rest inside name target found route =>
      obtain ⟨node, there, same⟩ := exists_entry_put content takes found
      rw [walkBy, directories, if_neg inside, there, (same target).mpr rfl]
      exact followed arrived
  | case7 place rest inside name node notLink found inductionHypothesis =>
      obtain ⟨other, there, same⟩ := exists_entry_put content takes found
      rw [walkBy, directories, if_neg inside, there]
      cases other with
      | file content
      | guarded content => exact inductionHypothesis arrived
      | link target => exact absurd ((same target).mp rfl) (notLink target)
      | directory entries => exact inductionHypothesis arrived

theorem walk_put (takes : disk.TakesFile path) {links : Nat} {place : Path} {steps : List Step}
    {arrival : Arrival} (arrived : disk.walk links place steps = .ok arrival) :
    (disk.put path (.file content)).walk links place steps = .ok arrival := by
  induction links generalizing place steps arrival with
  | zero => exact walkBy_put content takes (fun failed => by cases failed) arrived
  | succ fewer inductionHypothesis =>
      exact walkBy_put content takes (fun later => inductionHypothesis later) arrived

/-- A single step down to a node that is no link. -/
theorem walk_entry {links : Nat} {place : Path} {name : Name} {node : Node}
    (inside : disk.isDirectory place = true) (found : disk.entry place name = .ok node)
    (notLink : ∀ target, node ≠ .link target) :
    disk.walk links place [.down name] = .ok ⟨place ++ [name], links⟩ := by
  cases node with
  | link target => exact absurd rfl (notLink target)
  | file content
  | guarded content => cases links <;> simp [walk, walkBy, inside, found]
  | directory entries => cases links <;> simp [walk, walkBy, inside, found]

/-- A single step down to a link. -/
theorem walk_link {fewer : Nat} {place : Path} {name : Name} {target : Bytes}
    (inside : disk.isDirectory place = true) (found : disk.entry place name = .ok (.link target)) :
    disk.walk (fewer + 1) place [.down name]
      = disk.walk fewer ((Route.ofBytes target).start place) (Route.ofBytes target).allSteps := by
  simp [walk, walkBy, inside, found]

/-! ## Writing and reading -/

theorem allSteps_of_getLast? {route : Route} {step : Step} (unslashed : ¬route.slashed = true)
    (last : route.steps.getLast? = some step) :
    route.allSteps = route.steps.dropLast ++ [step] := by
  obtain ⟨steps, split⟩ := List.getLast?_eq_some_iff.mp last
  rw [Route.allSteps, if_neg unslashed, split, List.dropLast_concat]

/-- A new file, or one that is there, is reached by the steps to its directory and its name. -/
theorem arrives_at_free {links remaining : Nat} {start place : Path} {steps : List Step}
    {name : Name} (arrived : disk.walk links start steps = .ok ⟨place, remaining⟩)
    (inside : disk.isDirectory place = true) (short : ¬nameLimit < name.length)
    (free : disk.top.IsFree (place ++ [name])) :
    disk.TakesFile (place ++ [name]) ∧
      (disk.put (place ++ [name]) (.file content)).walk links start (steps ++ [.down name])
        = .ok ⟨place ++ [name], remaining⟩ := by
  have takes : disk.TakesFile (place ++ [name]) := ⟨place, name, rfl, inside, free⟩
  have entered : (disk.put (place ++ [name]) (.file content)).entry place name
      = .ok (.file content) := by
    rw [entry, if_neg short, node?_put_self content takes]
  have noLink : ∀ target, Node.file content ≠ .link target := by
    intro target same
    cases same
  refine ⟨takes, ?_⟩
  rw [walk_append, walk_put content takes arrived]
  apply walk_entry _ entered noLink
  rw [isDirectory_put content takes]
  exact inside

/-- Where a route lets a file be written, there is room for one, and the route leads there once
it is written. -/
theorem takesFile_of_destination {links : Nat} {start : Path} {route : Route}
    (led : disk.destination links start route = .ok path) :
    disk.TakesFile path ∧
      ∃ remaining, (disk.put path (.file content)).walk links start route.allSteps
        = .ok ⟨path, remaining⟩ := by
  fun_induction destination disk links start route with
  | case1 => cases led
  | case2 => cases led
  | case3 => cases led
  | case4 links start route place remaining arrived inside unslashed name last missing =>
      cases led
      have free : ¬nameLimit < name.length ∧ disk.node? (place ++ [name]) = none := by
        unfold entry at missing
        split at missing
        · cases missing
        · split at missing
          · exact ⟨‹_›, ‹_›⟩
          · cases missing
      obtain ⟨takes, reached⟩ :=
        arrives_at_free content arrived (by simpa using inside) free.1 (.inl free.2)
      rw [allSteps_of_getLast? unslashed last]
      exact ⟨takes, remaining, reached⟩
  | case5 => cases led
  | case6 links start route place remaining arrived inside unslashed name last old found =>
      cases led
      have short : ¬nameLimit < name.length := by
        intro long
        rw [entry, if_pos long] at found
        cases found
      obtain ⟨takes, reached⟩ :=
        arrives_at_free content arrived (by simpa using inside) short
          (.inr ⟨old, node?_of_entry found⟩)
      rw [allSteps_of_getLast? unslashed last]
      exact ⟨takes, remaining, reached⟩
  | case7 => cases led
  | case8 => cases led
  | case9 => cases led
  | case10 links start route place inside unslashed name last target found fewer arrived
      following same inductionHypothesis =>
      -- The walk takes the last link itself, with the steps of its target and no others behind it.
      obtain ⟨takes, remaining, reached⟩ := inductionHypothesis led
      obtain ⟨node, there, linked⟩ := exists_entry_put content takes found
      rw [(linked target).mpr rfl] at there
      refine ⟨takes, remaining, ?_⟩
      rw [allSteps_of_getLast? unslashed last, walk_append, walk_put content takes arrived]
      change (disk.put path (.file content)).walk (fewer + 1) place [.down name] = _
      rw [walk_link (by rw [isDirectory_put content takes]; simpa using inside) there]
      exact reached
  | case11 => cases led

theorem contentAt_put (takes : disk.TakesFile path) :
    (disk.put path (.file content)).contentAt path = .ok content := by
  rw [contentAt, node?_put_self content takes]

end Walks

/-! ## Written files -/

/-- Where the file is that is written at a written path, whatever its content: in a directory, at
a new name or in place of another file. The written path opens it then. -/
structure WritesAt (disk : Disk) (bytes : Bytes) (path : Path) : Prop where
  takes : disk.TakesFile path
  write : ∀ content, disk.write bytes content = .ok (disk.put path (.file content))
  opens : ∀ content, (disk.put path (.file content)).Opens bytes path

/-- Whether and where a file can be written does not depend on its content. -/
theorem refused_or_writesAt (disk : Disk) (bytes : Bytes) :
    (∃ fault, ∀ content, disk.write bytes content = .error fault) ∨
      ∃ path, disk.WritesAt bytes path := by
  cases accepted : checked bytes with
  | error fault => exact .inl ⟨fault, fun content => by simp only [write, accepted]⟩
  | ok route =>
      by_cases long : pathLimit < bytes.length
      · exact .inl ⟨.nameTooLong, fun content => by simp only [write, accepted, if_pos long]⟩
      · cases led : disk.destination linkLimit (route.start disk.current) route with
        | error fault =>
            exact .inl ⟨fault, fun content => by simp only [write, accepted, if_neg long, led]⟩
        | ok path =>
            refine .inr ⟨path, (takesFile_of_destination [] led).1, fun content => ?_,
              fun content => ⟨?_, Nat.le_of_not_lt long⟩⟩
            · simp only [write, accepted, if_neg long, led]
            · obtain ⟨_, remaining, reached⟩ := takesFile_of_destination content led
              refine locate_eq_ok_iff.mpr ⟨route, remaining, accepted, ?_⟩
              rw [current_put]
              exact reached

theorem write_error_congr {disk : Disk} {bytes content : Bytes} {fault : Fault}
    (refused : disk.write bytes content = .error fault) (other : Bytes) :
    disk.write bytes other = .error fault := by
  rcases disk.refused_or_writesAt bytes with ⟨reason, always⟩ | ⟨path, writes⟩
  · rw [always] at refused ⊢
    exact refused
  · cases refused.symm.trans (writes.write content)

theorem exists_writesAt {disk changed : Disk} {bytes content : Bytes}
    (written : disk.write bytes content = .ok changed) :
    ∃ path, disk.WritesAt bytes path ∧ changed = disk.put path (.file content) := by
  rcases disk.refused_or_writesAt bytes with ⟨reason, always⟩ | ⟨path, writes⟩
  · cases written.symm.trans (always content)
  · exact ⟨path, writes, Except.ok.inj (written.symm.trans (writes.write content))⟩

/-- What is written is read back. -/
theorem read_of_write {disk changed : Disk} {bytes content : Bytes}
    (written : disk.write bytes content = .ok changed) : changed.read bytes = .ok content := by
  obtain ⟨path, writes, rfl⟩ := exists_writesAt written
  exact read_eq_ok_iff.mpr ⟨path, writes.opens content, contentAt_put content writes.takes⟩

end Concordance.Disk
