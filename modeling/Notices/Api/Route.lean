import Notices.Api.Http

/-!
# Routes

The interface has five routes.  A path that is a route but for slashes at its
end is redirected there, and a route that is asked for with another method
than its own is refused.
-/

namespace Notices.Api

/-- What the interface offers. -/
inductive Route where
  | health
  | send
  | test
  | status
  | log
  deriving DecidableEq, Repr

namespace Route

/-- All routes. -/
def all : List Route := [.health, .send, .test, .status, .log]

/-- The path of a route. -/
def path : Route → String
  | .health => "/health"
  | .send => "/api/notifications/send"
  | .test => "/api/notifications/test"
  | .status => "/api/notifications/status"
  | .log => "/api/notifications/log"

/-- The method of a route. -/
def method : Route → String
  | .send | .test => "POST"
  | .health | .status | .log => "GET"

/-- Whether a route asks for the key of the administrator. -/
def isGuarded : Route → Bool
  | .health => false
  | _ => true

/-- The route with a path. -/
def ofPath? (s : List Char) : Option Route :=
  all.find? fun r => r.path.toList == s

end Route

/-- Where a request leads. -/
inductive Destination where
  | route (r : Route)
  | otherMethod (r : Route)
  | redirect
  | nowhere
  deriving DecidableEq, Repr

/-- A path without the slashes at its end. -/
def withoutSlashes (s : List Char) : List Char :=
  (s.reverse.dropWhile (· == '/')).reverse

/-- Where a request leads by its path and its method. -/
def HttpRequest.destination (r : HttpRequest) : Destination :=
  match Route.ofPath? r.path with
  | some route => if r.method = route.method then .route route
      else .otherMethod route
  | none =>
    if (Route.ofPath? (withoutSlashes r.path)).isSome &&
      r.path.getLast? == some '/' then .redirect
    else .nowhere

end Notices.Api
