import Docroot.Number.Binary64

/-!
# Times of change

A time is set in seconds, of which the whole and the millionths are kept, and it is read
back in milliseconds.

## Main definitions

* `wholePart` — a number with its fraction cut off.
* `keptMicros` — the microseconds that are kept of a time.
* `keptTime` — the time that is read back.
-/

namespace Docroot

/-- A number with its fraction cut off. -/
def wholePart (q : Rat) : Int := q.num.tdiv q.den

/-- The microseconds that are kept of a time in milliseconds: its whole seconds, and the
microseconds of what is left. -/
def keptMicros (t : Rat) : Int :=
  let seconds := roundRat (t / 1000)
  let whole := wholePart seconds
  let nanos := wholePart (roundRat ((seconds - whole) * 1000000000))
  whole * 1000000 + nanos.tdiv 1000

/-- The time in milliseconds that is read back of a time in milliseconds: what is kept, to
the nearest millisecond. -/
def keptTime (t : Rat) : Rat := ((keptMicros t + 500) / 1000 : Int)

end Docroot
