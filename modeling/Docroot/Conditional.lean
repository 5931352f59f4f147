import Docroot.Number.Binary64

/-!
# Conditional requests

HTTP dates carry whole seconds, so both times are taken to the second before they are
compared.

## Main definitions

* `wholeSeconds` — the second in which a time falls.
* `isNotModified` — a client that knows a resource as of a time need not fetch it again.

## Main results

* `isNotModified_some` — of two known times, the seconds are compared.
-/

namespace Docroot

/-- The second in which a time falls, after the quotient has been rounded. -/
def wholeSeconds (t : Rat) : Int := (roundRat (t / 1000)).floor

/-- A resource changed at `modified` is known to a client as of `since`. -/
def isNotModified (modified since : Option Rat) : Bool :=
  match modified, since with
  | some m, some s => wholeSeconds m ≤ wholeSeconds s
  | _, _ => false

@[simp] theorem isNotModified_none_left (since : Option Rat) :
    isNotModified none since = false := rfl

@[simp] theorem isNotModified_none_right (modified : Option Rat) :
    isNotModified modified none = false := by
  cases modified <;> rfl

@[simp] theorem isNotModified_some (m s : Rat) :
    isNotModified (some m) (some s) = decide (wholeSeconds m ≤ wholeSeconds s) := rfl

end Docroot
