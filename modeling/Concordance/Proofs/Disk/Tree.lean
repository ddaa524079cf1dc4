import Concordance.Proofs.Disk.Locate

/-!
Contract: disks whose directories are in good order, and the paths to their nodes.

A name stands for one entry and for nothing else: it is no step of a written path, has no
separator, and is not used twice. On such a disk a written path that passes through
directories alone leads where its names say.

Owns:
- names, and disks in good order;
- the nodes below a node;
- where written paths without links lead, and those with a separator at their end.

Does not own: written paths that pass through links (`Concordance.Proofs.Disk.Locate`).
-/

set_option autoImplicit false

namespace Concordance.Disk

/-! ## Names -/

/-- A name that an entry can have: it is not empty, has no separator, and is none of the two
that stand for a directory itself and for the one above it. -/
def IsName (name : Name) : Prop :=
  name ≠ [] ∧ separator ∉ name ∧ name ≠ [0x2E] ∧ name ≠ [0x2E, 0x2E]

instance (name : Name) : Decidable (IsName name) := instDecidableAnd

theorem IsName.ofPart? {name : Name} (isName : IsName name) :
    Step.ofPart? name = some (.down name) := by
  obtain ⟨nonempty, _, notHere, notUp⟩ := isName
  rw [Step.ofPart?, if_neg nonempty, if_neg notHere, if_neg notUp]

/-- What stands between marks is found again, if it has no mark itself. -/
theorem splitOnP_flatMap_cons {Member : Type} {isMark : Member → Bool} {mark : Member}
    (marked : isMark mark = true) {parts : List (List Member)}
    (free : ∀ part ∈ parts, ∀ member ∈ part, isMark member = false) {first : List Member}
    (inside : ∀ member ∈ first, isMark member = false) :
    (first ++ parts.flatMap fun part => mark :: part).splitOnP isMark = first :: parts := by
  induction parts generalizing first with
  | nil => rw [List.flatMap_nil, List.append_nil, List.splitOnP_eq_singleton inside]
  | cons part others inductionHypothesis =>
      rw [List.flatMap_cons, List.cons_append,
        List.splitOnP_append_cons_of_forall_mem inside mark marked,
        inductionHypothesis (fun other member => free other (List.mem_cons_of_mem _ member))
          (free part List.mem_cons_self)]

theorem splitOn_flatMap_cons {Member : Type} [BEq Member] [LawfulBEq Member] {mark : Member}
    {parts : List (List Member)} (free : ∀ part ∈ parts, mark ∉ part) {first : List Member}
    (inside : mark ∉ first) :
    (first ++ parts.flatMap fun part => mark :: part).splitOn mark = first :: parts := by
  have apart : ∀ part : List Member, mark ∉ part → ∀ member ∈ part, (member == mark) = false :=
    fun part outside member within => beq_eq_false_iff_ne.mpr (ne_of_mem_of_not_mem within outside)
  exact @splitOnP_flatMap_cons Member (· == mark) mark (beq_self_eq_true mark) parts
    (fun part member => apart part (free part member)) first (apart first inside)

/-- Only the path of the topmost directory is written with a separator at its end. -/
theorem getLast?_bytes_ne {path : Path} (nonempty : path ≠ [])
    (names : ∀ name ∈ path, IsName name) : (Path.bytes path).getLast? ≠ some separator := by
  obtain ⟨above, last, rfl⟩ := (List.eq_nil_or_concat' path).resolve_left nonempty
  obtain ⟨some, free, _⟩ := names last (List.mem_append_right _ List.mem_cons_self)
  have ends : (Path.bytes (above ++ [last])).getLast? = last.getLast? := by
    rw [Path.bytes, if_neg (by simp), List.flatMap_append, List.flatMap_singleton,
      List.getLast?_append_of_ne_nil _ (List.cons_ne_nil separator last)]
    exact List.getLast?_append_of_ne_nil [separator] some
  rw [ends]
  intro slashed
  exact free (List.mem_of_getLast? slashed)

/-- The steps of the written form of a path are its names. -/
theorem ofBytes_bytes {path : Path} (names : ∀ name ∈ path, IsName name) :
    Route.ofBytes (Path.bytes path) = ⟨true, path.map .down, path.isEmpty⟩ := by
  cases path with
  | nil => decide +kernel
  | cons first others =>
      have each : ∀ name ∈ first :: others, Step.ofPart? name = some (.down name) :=
        fun name member => (names name member).ofPart?
      have parts : Route.parts (Path.bytes (first :: others)) = [] :: first :: others :=
        splitOn_flatMap_cons (fun name member => (names name member).2.1) List.not_mem_nil
      have steps : (Route.parts (Path.bytes (first :: others))).filterMap Step.ofPart?
          = (first :: others).map .down := by
        rw [parts, List.filterMap_cons_none rfl, List.filterMap_congr each,
          List.filterMap_eq_map']
      rw [Route.ofBytes, steps,
        decide_eq_false (getLast?_bytes_ne (List.cons_ne_nil first others) names)]
      rfl

/-! ## Disks in good order -/

mutual

/-- Whether all directories at and below a node are in good order. -/
def Node.isTidy : Node → Bool
  | .file _ => true
  | .guarded _ => true
  | .link _ => true
  | .directory entries => decide (entries.map Prod.fst).Nodup && entriesAreTidy entries

/-- Whether entries have names, and what they stand for is in good order. -/
def entriesAreTidy : Entries → Bool
  | [] => true
  | entry :: others => decide (IsName entry.1) && entry.2.isTidy && entriesAreTidy others

end

/-- Whether all directories of a disk are in good order. -/
def isTidy (disk : Disk) : Bool := disk.top.isTidy

theorem of_mem_of_entriesAreTidy {entries : Entries} (tidy : entriesAreTidy entries = true)
    {entry : Name × Node} (member : entry ∈ entries) :
    IsName entry.1 ∧ entry.2.isTidy = true := by
  induction entries with
  | nil => cases member
  | cons first others inductionHypothesis =>
      simp only [entriesAreTidy, Bool.and_eq_true, decide_eq_true_eq] at tidy
      rcases List.mem_cons.mp member with rfl | later
      · exact tidy.1
      · exact inductionHypothesis tidy.2 later

/-- In a directory in good order a name leads to every entry that has it. -/
theorem lookup_eq_some_iff_mem {entries : Entries} (distinct : (entries.map Prod.fst).Nodup)
    {name : Name} {node : Node} : entries.lookup name = some node ↔ (name, node) ∈ entries := by
  induction entries with
  | nil => simp
  | cons first others inductionHypothesis =>
      rw [List.map_cons, List.nodup_cons] at distinct
      rw [List.lookup_cons, List.mem_cons]
      by_cases same : name = first.1
      · have missing : (name, node) ∉ others := by
          intro member
          apply distinct.1
          rw [← same]
          exact List.mem_map_of_mem (f := Prod.fst) member
        have only : some first.2 = some node ↔ (name, node) = first := by
          constructor
          · intro found
            exact Prod.ext same (Option.some.inj found).symm
          · rintro rfl
            rfl
        rw [same, beq_self_eq_true, ← same]
        exact only.trans (or_iff_left missing).symm
      · have other : (name, node) ≠ first := by
          rintro rfl
          exact same rfl
        have differs : (name == first.1) = false := beq_eq_false_iff_ne.mpr same
        rw [differs, inductionHypothesis distinct.2]
        exact (or_iff_right other).symm

theorem Node.at?_append (path rest : Path) (node : Node) :
    node.at? (path ++ rest) = (node.at? path).bind (Node.at? rest) := by
  induction path generalizing node with
  | nil => rfl
  | cons name others inductionHypothesis =>
      cases node with
      | file
      | guarded => rfl
      | link => rfl
      | directory entries =>
          change (entries.lookup name).bind (Node.at? (others ++ rest))
            = ((entries.lookup name).bind (Node.at? others)).bind (Node.at? rest)
          cases entries.lookup name with
          | none => rfl
          | some child => exact inductionHypothesis child

theorem node?_append (disk : Disk) (path rest : Path) :
    disk.node? (path ++ rest) = (disk.node? path).bind (Node.at? rest) :=
  Node.at?_append path rest disk.top

/-- What is found below a node in good order is in good order, and the way there goes by
names. -/
theorem Node.isTidy_of_at? {path : Path} {node below : Node} (tidy : node.isTidy = true)
    (found : node.at? path = some below) :
    below.isTidy = true ∧ ∀ name ∈ path, IsName name := by
  induction path generalizing node with
  | nil =>
      cases found
      exact ⟨tidy, fun name none => absurd none List.not_mem_nil⟩
  | cons name others inductionHypothesis =>
      cases node with
      | file
      | guarded => cases found
      | link => cases found
      | directory entries =>
          obtain ⟨child, entry, later⟩ := Option.bind_eq_some_iff.mp found
          simp only [Node.isTidy, Bool.and_eq_true, decide_eq_true_eq] at tidy
          have member : (name, child) ∈ entries := (lookup_eq_some_iff_mem tidy.1).mp entry
          obtain ⟨isName, childTidy⟩ := of_mem_of_entriesAreTidy tidy.2 member
          obtain ⟨belowTidy, names⟩ := inductionHypothesis childTidy later
          exact ⟨belowTidy, List.forall_mem_cons.mpr ⟨isName, names⟩⟩

/-! ## Written paths without links -/

theorem isDirectory_of_node?_append {disk : Disk} {place : Path} {name : Name} {rest : Path}
    {node : Node} (found : disk.node? (place ++ name :: rest) = some node) :
    disk.isDirectory place = true := by
  rw [node?_append] at found
  unfold isDirectory
  cases here : disk.node? place with
  | none =>
      rw [here] at found
      cases found
  | some above =>
      rw [here] at found
      cases above with
      | file
      | guarded => cases found
      | link => cases found
      | directory entries => rfl

/-- Steps down that meet no link lead where they say, unless a name is too long. -/
theorem walkBy_down {disk : Disk} (links : Nat)
    (follow : Path → List Step → Except Fault Arrival) {place names : Path} {node : Node}
    (found : disk.node? (place ++ names) = some node) (notLink : ∀ target, node ≠ .link target) :
    disk.walkBy links follow place (names.map .down) = .ok ⟨place ++ names, links⟩ ∨
      disk.walkBy links follow place (names.map .down) = .error .nameTooLong := by
  induction names generalizing place with
  | nil =>
      rw [List.append_nil]
      exact .inl rfl
  | cons name rest inductionHypothesis =>
      have isDirectory := isDirectory_of_node?_append found
      have split : place ++ name :: rest = place ++ [name] ++ rest := List.append_cons ..
      rw [split] at found ⊢
      have below := found
      rw [node?_append] at below
      obtain ⟨child, here, led⟩ := Option.bind_eq_some_iff.mp below
      by_cases long : nameLimit < name.length
      · right
        simp [walkBy, isDirectory, entry, long]
      · have entered : disk.entry place name = .ok child := by
          rw [entry, if_neg long, here]
        have further := inductionHypothesis found
        cases child with
        | file content
        | guarded content => simpa [walkBy, isDirectory, entered] using further
        | directory entries => simpa [walkBy, isDirectory, entered] using further
        | link target =>
            cases rest with
            | nil => exact absurd (Option.some.inj led).symm (notLink target)
            | cons next later => cases led

theorem walk_down {disk : Disk} (links : Nat) {place names : Path} {node : Node}
    (found : disk.node? (place ++ names) = some node) (notLink : ∀ target, node ≠ .link target) :
    disk.walk links place (names.map .down) = .ok ⟨place ++ names, links⟩ ∨
      disk.walk links place (names.map .down) = .error .nameTooLong := by
  cases links with
  | zero => exact walkBy_down 0 _ found notLink
  | succ fewer => exact walkBy_down (fewer + 1) _ found notLink

/-- The written form of a path to a file or a directory leads there, or nowhere. -/
theorem locate_bytes {disk : Disk} {path : Path} {node : Node} (nonempty : path ≠ [])
    (names : ∀ name ∈ path, IsName name) (found : disk.node? path = some node)
    (notLink : ∀ target, node ≠ .link target) :
    disk.locate (Path.bytes path) = .ok path ∨
      ∃ fault, disk.locate (Path.bytes path) = .error fault := by
  have route := ofBytes_bytes names
  rw [List.isEmpty_eq_false_iff.mpr nonempty] at route
  cases accepted : checked (Path.bytes path) with
  | error fault =>
      right
      exact ⟨fault, by rw [locate, accepted]⟩
  | ok checkedRoute =>
      have same : checkedRoute = ⟨true, path.map .down, false⟩ := by
        unfold checked at accepted
        rw [route] at accepted
        split at accepted
        · cases accepted
        · split at accepted
          · cases accepted
          · exact (Except.ok.inj accepted).symm
      have led : disk.walk linkLimit [] (path.map .down) = .ok ⟨path, linkLimit⟩ ∨
          disk.walk linkLimit [] (path.map .down) = .error .nameTooLong :=
        walk_down linkLimit found notLink
      rw [locate, accepted, same]
      rcases led with arrived | long
      · left
        change (disk.walk linkLimit [] (path.map .down)).map Arrival.place = _
        rw [arrived]
        rfl
      · right
        refine ⟨.nameTooLong, ?_⟩
        change (disk.walk linkLimit [] (path.map .down)).map Arrival.place = _
        rw [long]
        rfl

/-! ## Separators at the end -/

section Append

variable {disk : Disk}

/-- Further steps are taken from where the first ones have led, with the links that are
left then. -/
theorem walkBy_append {links : Nat} {follow : Path → List Step → Except Fault Arrival}
    (same : ∀ place steps, disk.walkBy links follow place steps = disk.walk links place steps)
    (followed : ∀ start steps more, follow start (steps ++ more)
      = (follow start steps).bind fun arrival => disk.walk arrival.links arrival.place more)
    (place : Path) (steps more : List Step) :
    disk.walkBy links follow place (steps ++ more)
      = (disk.walkBy links follow place steps).bind
          fun arrival => disk.walk arrival.links arrival.place more := by
  fun_induction walkBy disk links follow place steps with
  | case1 place => exact same place more
  | case2 place step rest outside =>
      rw [List.cons_append, walkBy.eq_def]
      dsimp only
      rw [if_pos outside]
      rfl
  | case3 place rest inside inductionHypothesis =>
      rw [List.cons_append, walkBy, if_neg inside]
      exact inductionHypothesis
  | case4 place rest inside inductionHypothesis =>
      rw [List.cons_append, walkBy, if_neg inside]
      exact inductionHypothesis
  | case5 place rest inside name fault missing =>
      rw [List.cons_append, walkBy, if_neg inside, missing]
      rfl
  | case6 place rest inside name target found route =>
      -- Behind a link the further steps are taken with fewer links, as the ones in front are.
      rw [List.cons_append, walkBy, if_neg inside, found]
      dsimp only
      rw [← List.append_assoc]
      exact followed _ _ more
  | case7 place rest inside name node notLink found inductionHypothesis =>
      rw [List.cons_append, walkBy, if_neg inside, found]
      cases node with
      | file content
      | guarded content => exact inductionHypothesis
      | link target => exact absurd rfl (notLink target)
      | directory entries => exact inductionHypothesis

theorem walk_append (links : Nat) (place : Path) (steps more : List Step) :
    disk.walk links place (steps ++ more)
      = (disk.walk links place steps).bind
          fun arrival => disk.walk arrival.links arrival.place more := by
  induction links generalizing place steps more with
  | zero => exact walkBy_append (fun _ _ => rfl) (fun _ _ _ => rfl) place steps more
  | succ fewer inductionHypothesis =>
      exact walkBy_append (fun _ _ => rfl) inductionHypothesis place steps more

theorem walk_here (links : Nat) (place : Path) :
    disk.walk links place [.here]
      = if disk.isDirectory place then .ok ⟨place, links⟩ else .error .notDirectory := by
  cases links <;> cases isDirectory : disk.isDirectory place <;>
    simp [walk, walkBy, isDirectory]

/-- A separator behind a written path adds the step that asks for a directory. -/
theorem ofBytes_append_separator {bytes : Bytes} (nonempty : bytes ≠ [])
    (unslashed : bytes.getLast? ≠ some separator) :
    (Route.ofBytes (bytes ++ [separator])).absolute = (Route.ofBytes bytes).absolute ∧
      (Route.ofBytes (bytes ++ [separator])).allSteps
        = (Route.ofBytes bytes).allSteps ++ [.here] := by
  obtain ⟨first, rest, rfl⟩ := List.exists_cons_of_ne_nil nonempty
  have parts : Route.parts (first :: rest ++ [separator])
      = Route.parts (first :: rest) ++ [[]] :=
    List.splitOn_append_cons_self (first :: rest) []
  have steps : (Route.parts (first :: rest ++ [separator])).filterMap Step.ofPart?
      = (Route.parts (first :: rest)).filterMap Step.ofPart? := by
    rw [parts, List.filterMap_append]
    exact List.append_nil _
  constructor
  · rfl
  · have slashed : (Route.ofBytes (first :: rest ++ [separator])).slashed = true :=
      decide_eq_true List.getLast?_concat
    have before : (Route.ofBytes (first :: rest)).slashed = false := decide_eq_false unslashed
    rw [Route.allSteps, Route.allSteps, slashed, before]
    exact congrArg (· ++ [Step.here]) steps

/-- A separator behind a written path leads on only from a directory. -/
theorem locate_append_separator {bytes : Bytes} {place : Path}
    (located : disk.locate bytes = .ok place) (unslashed : bytes.getLast? ≠ some separator) :
    disk.locate (bytes ++ [separator])
      = if disk.isDirectory place then .ok place else .error .notDirectory := by
  unfold locate checked at located
  by_cases zero : bytes.contains 0 = true
  · rw [if_pos zero] at located
    cases located
  by_cases empty : bytes.isEmpty = true
  · rw [if_neg zero, if_pos empty] at located
    cases located
  rw [if_neg zero, if_neg empty] at located
  dsimp only at located
  cases walked : disk.walk linkLimit (Route.start (.ofBytes bytes) disk.current)
      (Route.ofBytes bytes).allSteps with
  | error fault =>
      rw [walked] at located
      cases located
  | ok arrival =>
      rw [walked] at located
      cases located
      obtain ⟨absolute, steps⟩ := ofBytes_append_separator (by simpa using empty) unslashed
      have accepted : checked (bytes ++ [separator])
          = .ok (Route.ofBytes (bytes ++ [separator])) := by
        rw [checked, if_neg (by simpa [separator] using zero), if_neg (by simp)]
      rw [locate, accepted]
      dsimp only
      rw [Route.start, absolute, ← Route.start, steps, walk_append, walked]
      change (disk.walk arrival.links arrival.place [.here]).map Arrival.place = _
      rw [walk_here]
      split <;> rfl

end Append

end Concordance.Disk
