import Concordance.Disk.Basic
import Concordance.Failure
import Concordance.Url.Reference

/-!
Contract: documents as files and as URLs.

Owns:
- the key of a document, which is the URL of its file;
- the file that a link of a document leads to.

Does not own: the links of a document (`Concordance.Html.Anchor`).
-/

set_option autoImplicit false

namespace Concordance.Crawl

open Concordance.Disk (Path Route)

/-- The key of the document in the file at a path. -/
def key (path : Path) : Text := Url.render (Url.ofNames path)

/-- The names of a written path, where two dots count as a name. -/
def names (route : Route) : Path :=
  route.steps.filterMap fun step =>
    match step with
    | .here => none
    | .up => some [0x2E, 0x2E]
    | .down name => some name

/-- The key of the document in the file at a written path. -/
def keyOf (written : Text) : Except Failure Text :=
  let route := Route.ofBytes (Utf8.encode written)
  if route.absolute then .ok (key (names route))
  else .error (.crawl (Text.concat ["Not an absolute path: ", written]))

/-- The file that a link in `document` leads to. A document does not lead to
itself. -/
def target? (disk : Disk) (document : Path) (link : Text) : Option Path :=
  match Url.resolve? (some (Url.ofNames document)) link with
  | none => none
  | some segments =>
      match disk.locate (Url.filePath segments) with
      | .error _ => none
      | .ok path => if disk.isFile path && path ≠ document then some path else none

/-- The file that a link leads to in the document at a written path. -/
def targetFrom? (disk : Disk) (document : Text) (link : Text) : Option Path :=
  let route := Route.ofBytes (Utf8.encode document)
  if route.absolute then target? disk (names route) link else none

theorem isFile_of_target? {disk : Disk} {document path : Path} {link : Text}
    (found : target? disk document link = some path) : disk.isFile path = true := by
  unfold target? at found
  split at found
  · cases found
  · split at found
    · cases found
    · split at found
      · rename_i accepted
        cases found
        simp only [Bool.and_eq_true] at accepted
        exact accepted.1
      · cases found

end Concordance.Crawl
