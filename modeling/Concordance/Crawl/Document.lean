import Concordance.Crawl.Config
import Concordance.Crawl.Link
import Concordance.Disk.Files
import Concordance.Html.Content

/-!
Contract: loading documents.

Owns:
- what a file contributes to a crawl;
- `load`, and the source of documents that a disk is.

Does not own: the order in which documents are loaded (`Concordance.Crawl.Wave`).
-/

set_option autoImplicit false

namespace Concordance.Crawl

open Concordance.Disk (Path)

/-- A loaded document: its chunks of text, and the files its links lead to. -/
structure Document where
  path : Path
  chunks : List Text
  links : List Path
deriving DecidableEq, Repr

/-- Whether a file holds markup, which its extension says in either case. -/
def isMarkup (path : Path) : Bool :=
  Disk.Path.extensionText? path = some "html".toList
    || Disk.Path.extensionText? path = some "htm".toList

/-- The document in a file with this content. Markup is stripped if the settings say
so; all else is one chunk without links. -/
def Document.ofContent (disk : Disk) (config : Config) (path : Path) (content : Text) :
    Document :=
  if isMarkup path && config.stripMarkup then
    let extracted := Html.content content
    ⟨path, extracted.chunks,
      if config.followLinks then extracted.links.filterMap (target? disk path) else []⟩
  else ⟨path, [content], []⟩

/-- The document in the file at a path. -/
def load (disk : Disk) (config : Config) (path : Path) : Except Failure Document :=
  match disk.read (Disk.Path.bytes path) with
  | .error fault =>
      .error (.crawl (Text.concat
        ["Cannot read ", Disk.Path.render path, ": ", fault.message]))
  | .ok bytes => .ok (.ofContent disk config path (Utf8.decodeLossy bytes))

/-- A finite source of documents: every link of a loaded document leads to one of
`files`. -/
structure Source where
  load : Path → Except Failure Document
  files : List Path
  closed : ∀ path document, load path = .ok document →
    ∀ link ∈ document.links, link ∈ files

theorem mem_files_of_mem_links {disk : Disk} {config : Config} {path link : Path}
    {document : Document} (loaded : load disk config path = .ok document)
    (member : link ∈ document.links) : link ∈ disk.files := by
  unfold load at loaded
  split at loaded
  · cases loaded
  · rename_i bytes _
    cases loaded
    unfold Document.ofContent at member
    split at member
    · split at member
      · obtain ⟨reference, _, found⟩ := List.mem_filterMap.mp member
        exact Disk.mem_files_of_isFile (isFile_of_target? found)
      · cases member
    · cases member

/-- The documents of a disk. -/
def source (disk : Disk) (config : Config) : Source where
  load := load disk config
  files := disk.files
  closed := fun _ _ loaded _ member => mem_files_of_mem_links loaded member

end Concordance.Crawl
