import Notices.Api.Http

/-!
# Requests from other origins

A browser says from which origin a page asks.  With debugging on every origin is
allowed, and otherwise only the shop's own.  A preflight asks beforehand whether
a request would be allowed.
-/

namespace Notices.Api

/-- Which origins are allowed. -/
inductive Origins where
  | every
  | only (origin : String)
  deriving DecidableEq, Repr

namespace Origins

/-- The origin of the shop. -/
def shop : String := "https://enchantedparkpickups.com"

/-- The origins that are allowed with debugging on or off. -/
def ofDebug (debug : Bool) : Origins := if debug then .every else .only shop

/-- Whether an origin is allowed. -/
def allows (o : Origins) (origin : String) : Bool :=
  match o with
  | .every => true
  | .only allowed => allowed == origin

/-- The headers for a request from an origin. -/
def headers (o : Origins) (origin : String) : List (String × String) :=
  ("access-control-allow-credentials", "true") ::
    (if o.allows origin then [("access-control-allow-origin", origin)] else [])

/-- The methods that a page may ask for. -/
def methods : List String :=
  ["DELETE", "GET", "HEAD", "OPTIONS", "PATCH", "POST", "PUT", "QUERY"]

/-- The answer to a preflight.  No page may ask from a public
network for a private one. -/
def preflight (o : Origins) (origin method : String) (privateNetwork : Bool) :
    HttpResponse :=
  let refused :=
    (if o.allows origin then [] else ["origin"]) ++
      (if methods.contains method then [] else ["method"]) ++
      (if privateNetwork then ["private-network"] else [])
  let headers := o.headers origin
  if refused.isEmpty then { status := 200, headers, body := .text "OK" }
  else
    { status := 400, headers
      body := .text ("Disallowed CORS " ++ ", ".intercalate refused) }

/-- The answer to a request if it is a preflight. -/
def preflight? (o : Origins) (r : HttpRequest) : Option HttpResponse :=
  match r.header? "origin", r.header? "access-control-request-method" with
  | some origin, some method =>
    let privateNetwork :=
      (r.header? "access-control-request-private-network").isSome
    if r.method =
      "OPTIONS" then some (o.preflight origin method privateNetwork) else none
  | _, _ => none

/-- Adds the headers for the origin that a request comes from. -/
def mark (o : Origins) (r : HttpRequest) (response : HttpResponse) :
    HttpResponse :=
  match r.header? "origin" with
  | some origin =>
      { response with headers := response.headers ++ o.headers origin }
  | none => response

end Origins

end Notices.Api
