import Concordance.Url.Percent

/-!
Contract: paths of file URLs.

A path is followed segment by segment. A dot stays where it is, two dots climb, and
anything else is entered. A drive, which is a letter and a colon or a bar, cannot be
climbed out of, and at the top its bar becomes a colon.

Owns:
- segments and drives;
- trails, which are paths while they are followed;
- the written path of a file that segments name.

Does not own: references, which say where to begin (`Concordance.Url.Reference`).
-/

set_option autoImplicit false

namespace Concordance.Url

/-- The parts of a URL's path between the slashes, as they are written. A path that
ends with a slash ends with an empty segment. -/
abbrev Segments := List Text

/-- Both slashes separate segments. -/
def isSlash (character : Char) : Bool := character = '/' || character = '\\'

/-- Characters that end a path. -/
def endsPath (character : Char) : Bool := character = '?' || character = '#'

/-- A letter with a colon or a bar. -/
def isDrive : Text → Bool
  | [letter, mark] => letter.isAlpha && (mark = ':' || mark = '|')
  | _ => false

/-- A letter with a colon. -/
def isNormalDrive : Text → Bool
  | [letter, mark] => letter.isAlpha && mark = ':'
  | _ => false

/-- Whether a segment stays where it is. -/
def isHere (segment : Text) : Bool :=
  let lowered := segment.lowerAscii
  lowered = ".".toList || lowered = "%2e".toList

/-- Whether a segment climbs. -/
def isUp (segment : Text) : Bool :=
  let lowered := segment.lowerAscii
  lowered = "..".toList || lowered = ".%2e".toList || lowered = "%2e.".toList
    || lowered = "%2e%2e".toList

/-- A path while it is followed: its segments, the last one first. The last one is
still open, and empty where the path so far ends with a slash. -/
abbrev Trail := List Text

namespace Trail

/-- The trail at the top. -/
def top : Trail := [[]]

/-- Ends the open segment if a slash follows it. -/
def close (slash : Bool) (trail : Trail) : Trail := if slash then [] :: trail else trail

/-- Stays. -/
def stay : Trail → Trail
  | [] :: others => [] :: others
  | trail => [] :: trail

/-- Climbs. From a drive, or from the top, there is no way up. -/
def climb (slash : Bool) : Trail → Trail
  | [] :: parent :: others =>
      if isDrive parent then [] :: parent :: others else [] :: others
  | [[]] => top
  | trail => close slash trail

/-- The name under which a segment is entered at the top. -/
def driveName (segment : Text) : Text :=
  if isDrive segment then segment.take 1 ++ [':'] else segment

/-- Enters a segment, which continues the open one. -/
def enter (slash : Bool) (segment : Text) : Trail → Trail
  | [[]] => close slash [driveName segment]
  | [] => close slash [segment]
  | last :: others => close slash ((last ++ segment) :: others)

/-- Follows one segment, behind which a slash may stand. -/
def step (slash : Bool) (segment : Text) (trail : Trail) : Trail :=
  if isUp segment then climb slash trail
  else if isHere segment then stay trail
  else enter slash segment trail

/-- Follows segments with slashes between them. -/
def follow (trail : Trail) : Segments → Trail
  | [] => trail
  | [last] => step false last trail
  | segment :: others => follow (step true segment trail) others

/-- The segments of a trail. Empty ones at the front are dropped. -/
def segments (trail : Trail) : Segments :=
  match trail.reverse.dropWhile List.isEmpty with
  | [] => [[]]
  | first :: others => first :: others

end Trail

/-- The segments at the front of a text, up to a query or a fragment. -/
def segmentsOf (text : Text) : Segments :=
  (text.takeWhile fun character => !endsPath character).splitOnP isSlash

/-- The written path of the file that segments name. A drive at its end is followed
by a slash. -/
def filePath (segments : Segments) : Bytes :=
  let path := segments.flatMap fun segment => 0x2F :: Percent.decode segment
  match path.reverse with
  | mark :: letter :: _ :: _ =>
      if isDrive [Char.ofNat letter.toNat, Char.ofNat mark.toNat] then path ++ [0x2F]
      else path
  | _ => path

/-- The segments of a path of names. -/
def ofNames (names : List Bytes) : Segments :=
  if names.isEmpty then [[]] else names.map Percent.encode

/-- The URL with these segments. -/
def render (segments : Segments) : Text :=
  "file://".toList ++ segments.flatMap fun segment => '/' :: segment

end Concordance.Url
