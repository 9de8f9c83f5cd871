import BearerClient.Http.Exchange

/-!
# Prepared replies

What a stand-in for the backend is told to answer with: a status and a body, sent whole, cut short,
or not at all.
-/

namespace BearerClient

/-- What becomes of a reply on its way. -/
inductive Transit where
  /-- It arrives as it is. -/
  | whole
  /-- The connection is closed before anything is sent. -/
  | dropped
  /-- The body stops before its declared end. -/
  | cut
  /-- Nothing ever comes. -/
  | silent
  deriving DecidableEq, Repr

/-- A prepared reply. -/
structure Reply where
  /-- The status code. -/
  status : Nat
  /-- The body. -/
  body : ByteArray
  /-- What becomes of the reply. -/
  transit : Transit

namespace Reply

/-- Whether a response with this status to this method has a body at all. -/
def allowsBody (method : Method) (status : Nat) : Bool :=
  !(method.name == "HEAD" || status = 204 || status = 304)

/-- What arrives for a request with the given method; nothing if the reply is silent. -/
def delivery? (r : Reply) (method : Method) : Option Delivery :=
  match r.transit with
  | .silent => none
  | .dropped => some .dropped
  | .cut =>
    if allowsBody method r.status then some .cut else some (.response ⟨r.status, .empty⟩)
  | .whole =>
    some (.response ⟨r.status, if allowsBody method r.status then r.body else .empty⟩)

end Reply

end BearerClient
