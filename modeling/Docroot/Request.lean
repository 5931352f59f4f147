import Docroot.Text

/-!
# Requests

## Main definitions

* `Request` — a request, with the path below its mapping once that is known.
* `Request.header?` — the value of a header.
-/

namespace Docroot

/-- A request. -/
structure Request where
  /-- The method, if there is one. -/
  method : Option String
  /-- The headers, by their names in lower case. -/
  headers : List (String × String)
  /-- The target, if there is one. -/
  target : Option Text
  /-- The path below the mapping that the request was dispatched by. -/
  pathWithin : Option Text
  deriving DecidableEq, Repr, Inhabited

namespace Request

/-- The value of a header. -/
def header? (r : Request) (name : String) : Option String := r.headers.lookup name

/-- The request with the path below its mapping attached. -/
def setPathWithin (r : Request) (path : Text) : Request := { r with pathWithin := some path }

@[simp] theorem pathWithin_setPathWithin (r : Request) (path : Text) :
    (r.setPathWithin path).pathWithin = some path := rfl

@[simp] theorem headers_setPathWithin (r : Request) (path : Text) :
    (r.setPathWithin path).headers = r.headers := rfl

@[simp] theorem method_setPathWithin (r : Request) (path : Text) :
    (r.setPathWithin path).method = r.method := rfl

end Request

end Docroot
