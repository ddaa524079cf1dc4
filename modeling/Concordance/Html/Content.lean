import Concordance.Html.Anchor
import Concordance.Html.Block
import Concordance.Html.Piece
import Concordance.Html.Reference

/-!
Contract: what a document in markup contributes to an index.

Owns: the chunks of text and the links of a document.

Does not own: which of the links are followed (`Concordance.Crawl.Link`).
-/

set_option autoImplicit false

namespace Concordance.Html

/-- Chunks of text and targets of links, both in the order of the document. -/
structure Content where
  chunks : List Text
  links : List Text
deriving DecidableEq, Repr

/-- The chunks of text between tags. Those of blanks alone are left out. -/
def chunks (document : Text) : List Text :=
  ((pieces (visible document)).filter fun piece => !piece.all Text.isBlank).map decode

/-- The targets of links. Empty ones are left out. -/
def links (document : Text) : List Text :=
  ((targets document).map fun target => decode target.trimmed).filter
    fun link => !link.isEmpty

/-- The content of a document. -/
def content (document : Text) : Content := ⟨chunks document, links document⟩

end Concordance.Html
