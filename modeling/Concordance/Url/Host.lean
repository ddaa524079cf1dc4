import Concordance.Url.Address
import Concordance.Url.Name
import Concordance.Url.Percent

/-!
Contract: the hosts that a file can be on.

Owns: `host?`, which tells this machine from others.

Does not own: where a host stands in a reference (`Concordance.Url.Reference`).
-/

set_option autoImplicit false

namespace Concordance.Url

/-- Where a file is: on this machine or on another one. -/
inductive Host where
  | here
  | elsewhere
deriving DecidableEq, Repr

/-- The host that is written, if one can be written so. Brackets are around an address
of eight pieces. A name whose last part is a number has to be an address. -/
def host? (written : Text) : Option Host :=
  match written with
  | [] => some .here
  | '[' :: rest =>
      if rest.getLast? = some ']' && Address.isLong rest.dropLast then some .elsewhere
      else none
  | _ =>
      match (Utf8.decode? (Percent.decode written)).bind Name.canonical? with
      | none => none
      | some name =>
          if name.isEmpty then none
          else if name = "localhost".toList then some .here
          else if Address.isMeant name && !Address.isShort name then none
          else some .elsewhere

end Concordance.Url
