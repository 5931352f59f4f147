import Docroot.Date.Stamp
import Docroot.Headers
import Docroot.Number.Quantity

/-!
# Caching headers

A policy says how long clients may keep a response.  The older set of headers, with
`Expires` and `Pragma`, is written if one of its options was chosen.

## Main definitions

* `CachePolicy` — the options of caching.
* `CachePolicy.headers` — the headers that a policy asks for at a time.

## Main results

* `CachePolicy.headers_of_verbatim` — a value given word for word is used alone.
-/

namespace Docroot

/-- The options of caching. -/
structure CachePolicy where
  /-- The seconds a response may be kept: none at zero, no statement below. -/
  seconds : Rat
  /-- An `Expires` header is written. -/
  useExpires : Bool
  /-- A `Cache-Control` header is written in the older set. -/
  useCacheControl : Bool
  /-- Responses that may not be kept may not be stored either. -/
  noStore : Bool
  /-- Stale responses must be asked for again. -/
  mustRevalidate : Bool
  /-- The older set of headers is written. -/
  legacy : Bool
  /-- The value of `Cache-Control`, word for word, in place of all else. -/
  verbatim : Option String
  deriving DecidableEq, Repr, Inhabited

namespace CachePolicy

/-- The name of the header that directs caches. -/
def cacheControl : String := "Cache-Control"

/-- The directive to keep a response for some seconds. -/
def maxAge (seconds : Rat) : String := "max-age=" ++ (Quantity.ofRat seconds).text

/-- The time at which a response kept for some seconds from `now` expires. -/
def expiry (seconds now : Rat) : Rat := roundRat (now + roundRat (seconds * 1000))

/-- The older set of headers. -/
def legacyHeaders (p : CachePolicy) (now : Rat) : List HeaderEntry :=
  if 0 < p.seconds then
    (if p.useExpires then [("Expires", httpDate (expiry p.seconds now))] else [])
      ++ (if p.useCacheControl then
        [(cacheControl, maxAge p.seconds ++ if p.mustRevalidate then ", must-revalidate" else "")]
        else [])
  else if p.seconds = 0 then
    ("Pragma", "no-cache")
      :: (if p.useCacheControl then
        (cacheControl, "no-cache") :: (if p.noStore then [(cacheControl, "no-store")] else [])
        else [])
      ++ [("Expires", httpDate now)]
  else []

/-- The one header that suffices now. -/
def modernHeaders (p : CachePolicy) : List HeaderEntry :=
  if 0 < p.seconds then [(cacheControl, maxAge p.seconds)]
  else if p.seconds = 0 then [(cacheControl, if p.noStore then "no-store" else "no-cache")]
  else []

/-- The headers that the policy asks for at the time `now`. -/
def headers (p : CachePolicy) (now : Rat) : List HeaderEntry :=
  match p.verbatim with
  | some value => [(cacheControl, value)]
  | none => if p.legacy then p.legacyHeaders now else p.modernHeaders

/-- A value given word for word is used alone. -/
theorem headers_of_verbatim {p : CachePolicy} {value : String} (h : p.verbatim = some value)
    (now : Rat) : p.headers now = [(cacheControl, value)] := by simp [headers, h]

end CachePolicy

end Docroot
