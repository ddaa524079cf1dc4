import Concordance.Disk.Route

/-!
Contract: the disk, and where written paths lead on it.

Written paths can be too long, paths of nodes cannot: whatever is on a disk is taken to have
a path of at most `pathLimit` bytes. So `read` and `write` check the path they are given,
while `locate` and questions about a node have nothing to check but the length of names.

Owns:
- the disk with its working directory;
- the faults of reading and writing, and their wording;
- `locate`, which follows every link on the way, `read` and `write`.

Does not own: walking through directories (`Concordance.Crawl.Directory`).
-/

set_option autoImplicit false

namespace Concordance

/-- All files, and the directory at which written paths begin. -/
structure Disk where
  entries : Disk.Entries
  current : Disk.Path

namespace Disk

/-- Why a path cannot be followed, read or written. -/
inductive Fault where
  | notFound
  | notDirectory
  | isDirectory
  | nameTooLong
  | tooManyLinks
  | zeroByte
  | notPermitted
deriving DecidableEq, Repr

/-- Wording of a fault. -/
def Fault.message : Fault → Text
  | notFound => "No such file or directory (os error 2)"
  | notDirectory => "Not a directory (os error 20)"
  | isDirectory => "Is a directory (os error 21)"
  | nameTooLong => "File name too long (os error 36)"
  | tooManyLinks => "Too many levels of symbolic links (os error 40)"
  | zeroByte => "file name contained an unexpected NUL byte"
  | notPermitted => "Permission denied (os error 13)"

/-- Number of bytes a name has at most. -/
def nameLimit : Nat := 255

/-- Number of bytes a path that is opened has at most. -/
def pathLimit : Nat := 4095

/-- Number of links that are followed on the way to one node. -/
def linkLimit : Nat := 40

/-- The topmost directory. -/
def top (disk : Disk) : Node := .directory disk.entries

/-- The node at a path. -/
def node? (disk : Disk) (path : Path) : Option Node := disk.top.at? path

/-- Whether a path leads to a directory. -/
def isDirectory (disk : Disk) (path : Path) : Bool :=
  ((disk.node? path).map Node.isDirectory).getD false

/-- Whether a path leads to a file. -/
def isFile (disk : Disk) (path : Path) : Bool :=
  ((disk.node? path).map Node.isFile).getD false

/-- The directory at which a route begins that is read in directory `place`. -/
def Route.start (route : Route) (place : Path) : Path :=
  if route.absolute then [] else place

/-- The entry of a directory. -/
def entry (disk : Disk) (place : Path) (name : Name) : Except Fault Node :=
  if nameLimit < name.length then .error .nameTooLong
  else
    match disk.node? (place ++ [name]) with
    | none => .error .notFound
    | some node => .ok node

/-- Where steps have led to, and how many links may still be followed. -/
structure Arrival where
  place : Path
  links : Nat
deriving DecidableEq, Repr

/-- Takes steps from a path while `links` links may still be followed. Behind a link
`follow` takes the steps. -/
def walkBy (disk : Disk) (links : Nat) (follow : Path → List Step → Except Fault Arrival)
    (place : Path) : List Step → Except Fault Arrival
  | [] => .ok ⟨place, links⟩
  | step :: rest =>
      if !disk.isDirectory place then .error .notDirectory
      else
        match step with
        | .here => disk.walkBy links follow place rest
        | .up => disk.walkBy links follow place.dropLast rest
        | .down name =>
            match disk.entry place name with
            | .error fault => .error fault
            | .ok (.link target) =>
                let route := Route.ofBytes target
                follow (route.start place) (route.allSteps ++ rest)
            | .ok _ => disk.walkBy links follow (place ++ [name]) rest

/-- Takes steps from a path, following every link, of which there may be `links`. -/
def walk (disk : Disk) : (links : Nat) → Path → List Step → Except Fault Arrival
  | 0 => disk.walkBy 0 fun _ _ => .error .tooManyLinks
  | fewer + 1 => disk.walkBy (fewer + 1) (disk.walk fewer)

theorem links_le_of_walkBy {disk : Disk} {links : Nat}
    {follow : Path → List Step → Except Fault Arrival} {place : Path} {steps : List Step}
    {arrival : Arrival}
    (followed : ∀ {start : Path} {steps : List Step} {arrival : Arrival},
      follow start steps = .ok arrival → arrival.links ≤ links)
    (arrived : disk.walkBy links follow place steps = .ok arrival) :
    arrival.links ≤ links := by
  fun_induction walkBy disk links follow place steps with
  | case1 => cases arrived; exact Nat.le_refl _
  | case2 => cases arrived
  | case3 _ _ _ inductionHypothesis => exact inductionHypothesis arrived
  | case4 _ _ _ inductionHypothesis => exact inductionHypothesis arrived
  | case5 => cases arrived
  | case6 => exact followed arrived
  | case7 =>
    rename_i inductionHypothesis
    exact inductionHypothesis arrived

/-- A walk never gains links. -/
theorem links_le_of_walk {disk : Disk} {links : Nat} {place : Path} {steps : List Step}
    {arrival : Arrival} (arrived : disk.walk links place steps = .ok arrival) :
    arrival.links ≤ links := by
  induction links generalizing place steps arrival with
  | zero => exact links_le_of_walkBy (fun failed => by cases failed) arrived
  | succ fewer inductionHypothesis =>
      exact links_le_of_walkBy
        (fun later => Nat.le_succ_of_le (inductionHypothesis later)) arrived

/-- The checks a written path has to pass before it is followed. -/
def checked (bytes : Bytes) : Except Fault Route :=
  if bytes.contains 0 then .error .zeroByte
  else if bytes.isEmpty then .error .notFound
  else .ok (Route.ofBytes bytes)

/-- The path without links that a written path leads to. -/
def locate (disk : Disk) (bytes : Bytes) : Except Fault Path :=
  match checked bytes with
  | .error fault => .error fault
  | .ok route =>
      (disk.walk linkLimit (route.start disk.current) route.allSteps).map Arrival.place

/-- The content of the file at a path. -/
def contentAt (disk : Disk) (path : Path) : Except Fault Bytes :=
  match disk.node? path with
  | some (.file content) => .ok content
  | some (.guarded (some content)) => .ok content
  | some (.guarded none) => .error .notPermitted
  | some (.directory _) => .error .isDirectory
  | _ => .error .notFound

/-- The content of the file that a written path leads to. -/
def read (disk : Disk) (bytes : Bytes) : Except Fault Bytes :=
  match checked bytes with
  | .error fault => .error fault
  | .ok route =>
      if pathLimit < bytes.length then .error .nameTooLong
      else
        match disk.walk linkLimit (route.start disk.current) route.allSteps with
        | .error fault => .error fault
        | .ok arrival => disk.contentAt arrival.place

/-- The path at which a route lets a file be written: an existing file or a new
entry of an existing directory. The last link may lead to nothing yet, and counts
like those on the way to it. -/
def destination (disk : Disk) (links : Nat) (start : Path) (route : Route) :
    Except Fault Path :=
  match _arrived : disk.walk links start route.steps.dropLast with
  | .error fault => .error fault
  | .ok ⟨place, remaining⟩ =>
      if !disk.isDirectory place then .error .notDirectory
      else if route.slashed then .error .isDirectory
      else
        match route.steps.getLast? with
        | some (.down name) =>
            match disk.entry place name with
            | .error .notFound => .ok (place ++ [name])
            | .error fault => .error fault
            | .ok (.file _) => .ok (place ++ [name])
            | .ok (.guarded _) => .error .notPermitted
            | .ok (.directory _) => .error .isDirectory
            | .ok (.link target) =>
                match remaining with
                | 0 => .error .tooManyLinks
                | fewer + 1 =>
                    let following := Route.ofBytes target
                    disk.destination fewer (following.start place) following
        | _ => .error .isDirectory
termination_by links
decreasing_by exact links_le_of_walk _arrived

/-- The disk with a node at a path. -/
def put (disk : Disk) (path : Path) (node : Node) : Disk :=
  match node.place path disk.top with
  | .directory entries => { disk with entries }
  | _ => disk

/-- The disk with a file at the place that a written path leads to. -/
def write (disk : Disk) (bytes content : Bytes) : Except Fault Disk :=
  match checked bytes with
  | .error fault => .error fault
  | .ok route =>
      if pathLimit < bytes.length then .error .nameTooLong
      else
        match disk.destination linkLimit (route.start disk.current) route with
        | .error fault => .error fault
        | .ok path => .ok (disk.put path (.file content))

end Disk

end Concordance
