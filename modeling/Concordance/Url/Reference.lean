import Concordance.Url.Host
import Concordance.Url.Trail

/-!
Contract: references to files.

A reference is a file URL, or is read relative to one. References with other schemes
and to other hosts lead to no file.

Owns: `resolve?`, the segments that a reference leads to.

Does not own: hosts (`Concordance.Url.Host`), and whether there is a file
(`Concordance.Crawl.Link`).
-/

set_option autoImplicit false

namespace Concordance.Url

/-- The text of a reference without control characters and blanks at its ends, and
without tabs and line breaks anywhere. -/
def cleaned (text : Text) : Text :=
  let isEdge (character : Char) : Bool := character ≤ ' '
  let trimmed := ((text.dropWhile isEdge).reverse.dropWhile isEdge).reverse
  trimmed.filter fun character =>
    character ≠ '\t' && character ≠ '\n' && character ≠ '\r'

/-- Characters of a scheme. -/
def isSchemeChar (character : Char) : Bool :=
  character.isAlphanum || character = '+' || character = '-' || character = '.'

/-- The scheme of a reference in lower case, with the text behind its colon. -/
def scheme? (text : Text) : Option (Text × Text) :=
  match text.head?, text.dropWhile isSchemeChar with
  | some first, ':' :: rest =>
      if first.isAlpha then some (Text.lowerAscii (text.takeWhile isSchemeChar), rest)
      else none
  | _, _ => none

/-- Whether a text begins with a drive that is a whole segment. -/
def beginsWithDrive (text : Text) : Bool :=
  isDrive (text.take 2) &&
    (match text.drop 2 with
      | [] => true
      | next :: _ => isSlash next || endsPath next)

/-- The segments behind two slashes, where a host stands first. A drive is no host,
and in front of a drive the host does not matter. -/
def behindHost? (text : Text) : Option Segments :=
  let endsHost (character : Char) : Bool := isSlash character || endsPath character
  let name := text.takeWhile fun character => !endsHost character
  let rest := text.dropWhile fun character => !endsHost character
  if isDrive name then some (Trail.top.follow (segmentsOf text)).segments
  else
    let path := match rest with
      | next :: more => if isSlash next then more else rest
      | [] => []
    let trail := Trail.top.follow (segmentsOf path)
    match host? name with
    | none => none
    | some .here => some trail.segments
    | some .elsewhere =>
        if (trail.getLast?.map isNormalDrive).getD false then some trail.segments else none

/-- The trail behind one slash. It begins at the drive of the base, unless it names
one itself. -/
def topOf (base : Option Segments) (text : Text) : Trail :=
  match base with
  | some (first :: _) =>
      if isNormalDrive first && !beginsWithDrive text then [[], first] else Trail.top
  | _ => Trail.top

/-- The trail at the directory of a base. A drive at its end is kept, and what is
entered there continues it. -/
def directoryOf (base : Segments) : Trail :=
  match base.reverse with
  | [] => Trail.top
  | last :: others => if isNormalDrive last then last :: others else [] :: others

/-- The segments that a text without a scheme leads to. -/
def relative? (base : Option Segments) (text : Text) : Option Segments :=
  match text with
  | [] => some (base.getD [[]])
  | first :: rest =>
      if isSlash first then
        match rest with
        | second :: more =>
            if isSlash second then behindHost? more
            else some ((topOf base rest).follow (segmentsOf rest)).segments
        | [] => some ((topOf base rest).follow (segmentsOf rest)).segments
      else
        match base with
        | none => some (Trail.top.follow (segmentsOf text)).segments
        | some segments =>
            if endsPath first then some segments
            else if beginsWithDrive text then
              some (Trail.top.follow (segmentsOf text)).segments
            else some ((directoryOf segments).follow (segmentsOf text)).segments

/-- The segments that a reference leads to, read relative to `base` if there is one. -/
def resolve? (base : Option Segments) (reference : Text) : Option Segments :=
  let text := cleaned reference
  match scheme? text with
  | some (scheme, rest) =>
      if scheme = "file".toList then relative? base rest else none
  | none => if base.isSome then relative? base text else none

end Concordance.Url
