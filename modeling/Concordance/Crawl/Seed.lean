import Concordance.Crawl.Link

/-!
Contract: where a crawl begins.

A seed is a written path or a file URL.

Owns: the path that a seed leads to.

Does not own: directories (`Concordance.Crawl.Directory`).
-/

set_option autoImplicit false

namespace Concordance.Crawl

open Concordance.Disk (Path)

/-- The written path that a seed stands for. -/
def writtenPath (seed : Text) : Except Failure Bytes :=
  if "file:".toList.isPrefixOf seed then
    match Url.resolve? none seed with
    | none => .error (.crawl (Text.concat ["Invalid file URL seed ", seed]))
    | some segments => .ok (Url.filePath segments)
  else .ok (Utf8.encode seed)

/-- The path that a seed leads to. -/
def seedPath (disk : Disk) (seed : Text) : Except Failure Path :=
  match writtenPath seed with
  | .error failure => .error failure
  | .ok written =>
      match disk.locate written with
      | .error fault =>
          .error (.crawl (Text.concat ["Cannot open seed ", seed, ": ", fault.message]))
      | .ok path => .ok path

end Concordance.Crawl
