import Notices.Api.Cors
import Notices.Api.Route
import Notices.Config
import Notices.Json.Reader
import Notices.Service.Dispatch
import Notices.Service.Report
import Notices.Service.TestSend
import Notices.Value.Finite
import Notices.World.Basic

/-!
# The HTTP interface

A request is checked before anything is done: its body has to be JSON, then the
key of the administrator is asked for, then the body or the query is read.  Only
a request that passes all of this reaches the service.

* `answer` is the program that answers a request, and `respond` runs it in a
  world.  A failure that the service lets through becomes an internal error.
-/

namespace Notices.Api

/-- What the interface has to know of the configuration. -/
structure Interface where
  environment : String
  adminKey : Option String
  emailConfigured : Bool
  smsConfigured : Bool
  deriving DecidableEq, Repr

namespace Interface

/-- The interface for a configuration and the accounts of a world. -/
def ofConfig (c : Config) (w : World) : Interface where
  environment := c.environment
  adminKey := c.adminKey
  emailConfigured := w.email.isConfigured
  smsConfigured := w.sms.isConfigured

/-- Whether a request has the key of the administrator.  Without a
key the routes are open. -/
def admits (i : Interface) (r : HttpRequest) : Bool :=
  match i.adminKey with
  | none => true
  | some key => key.isEmpty || r.header? "x-api-key" == some key

end Interface

/-! ## Checks -/

/-- The answer to a request without the key. -/
def unauthorized : HttpResponse :=
  .problem 401 "Clé API invalide ou absente" [("www-authenticate", "ApiKey")]

/-- The answer to a test that names no template or no recipient. -/
def incompleteTest : HttpResponse :=
  .problem 400 "Template ID and recipient required" []

/-- The body of a request: none, a JSON value, or a text of another kind. -/
inductive Content where
  | none
  | json (v : Value)
  | other

/-- What a body holds; a text that was not read as JSON counts as null. -/
def Content.value : Content → Value
  | .json v => v
  | _ => .null

/-- The answer to a request whose body is JSON beyond what is read. -/
def unreadable : HttpResponse :=
  .problem 400 "There was an error parsing the body" []

/-- Reads the body of a request, or gives the answer to a request
whose body cannot be read. -/
def readContent (r : HttpRequest) : Except HttpResponse Content :=
  if r.body.isEmpty then .ok .none
  else if r.isJson then
    match Json.read r.body with
    | .ok v => .ok (.json v)
    | .error (.malformed f) =>
      .error (.invalid [⟨[.field "body", .position f.position], .notJson⟩])
    | .error _ => .error unreadable
  else .ok .other

/-- Reads the record that the body of a request holds. -/
def readRecord {α : Type} (read : FaultKind → Record.Reader α) :
    Content → Checked α
  | .none => .fault .missing
  | .json v => read .notBody v
  | .other => .fault .notBody

/-- How many entries of the log are given if the request does not say. -/
def usualLimit : Nat := 50

/-- The most entries of the log that are given. -/
def greatestLimit : Nat := 500

/-- Reads how many entries of the log a request asks for. -/
def readLimit (r : HttpRequest) : Checked Nat :=
  match r.parameter? "limit" with
  | none => .ok usualLimit
  | some s =>
    Checked.under (.field "query") <| Checked.under (.field "limit") <|
      (Record.integerOfText s).andThen fun n =>
        if n < 1 then .fault .tooSmall
        else if greatestLimit < n then .fault .tooLarge
        else .ok n.toNat

/-! ## Answers -/

/-- What an answer fails with that cannot be written as JSON. -/
def unwritable : Failure :=
  ⟨"ValueError", "Out of range float values are not JSON compliant"⟩

/-- The answer to a request with faults.  Each fault is told with the part of
the document that has it, so that there is no answer if one of these parts has a
number that is not finite. -/
def refuse (document : Value) (faults : List Fault) : Program HttpResponse :=
  if faults.any fun f =>
    !(document.part f.path).isFinite then .failed unwritable
  else return .invalid faults

/-- Goes on with the record that the body of a request holds, or lists its
faults. -/
def afterRecord {α : Type} (read : FaultKind → Record.Reader α)
    (content : Content) (k : α → Program HttpResponse) : Program HttpResponse :=
  match readRecord read content with
  | .ok a => k a
  | .failed faults =>
    refuse (.object [("body", content.value)])
      (faults.map fun f => { f with path := .field "body" :: f.path })

/-- Goes on with the number of entries that a request asks for, or lists its
faults. -/
def afterLimit (r : HttpRequest) (k : Nat → Program HttpResponse) :
    Program HttpResponse :=
  match readLimit r with
  | .ok limit => k limit
  | .failed faults => return .invalid faults

/-- Goes on with the body of a request, if it can be read. -/
def afterContent (r : HttpRequest) (k : Content → Program HttpResponse) :
    Program HttpResponse :=
  match readContent r with
  | .ok content => k content
  | .error response => return response

/-- Goes on if a request has the key. -/
def afterKey (i : Interface) (r : HttpRequest) (p : Program HttpResponse) :
    Program HttpResponse :=
  if i.admits r then p else return unauthorized

/-- Sends the notice that a request asks for. -/
def answerSend (request : DispatchRequest) : Program HttpResponse := do
  let dispatched ← dispatch request.trigger request.data request.options
  return .json dispatched.toResult.toValue

/-- Sends the test that a request asks for. -/
def answerTest (request : TestRequest) : Program HttpResponse :=
  match request.templateId.filter (!·.isEmpty),
    request.recipient.filter (!·.isEmpty) with
  | some templateId, some recipient => do
    let outcome ← sendTest templateId recipient
    return .json outcome.toRecord.toValue
  | _, _ => return incompleteTest

/-- The state of the service. -/
def health (i : Interface) : HttpResponse := .json (.object [
  ("status", .string "ok"),
  ("app", .string "notifications"),
  ("env", .string i.environment),
  ("version", .string "1.0.0")])

/-- Answers a request for a route. -/
def answerRoute (i : Interface) (r : HttpRequest) : Route → Program HttpResponse
  | .health => return health i
  | .send =>
    afterContent r fun content => afterKey i r <|
      afterRecord DispatchRequest.read content answerSend
  | .test =>
    afterContent r fun content => afterKey i r <|
      afterRecord TestRequest.read content answerTest
  | .status => afterKey i r do
    return .json (← status i.emailConfigured i.smsConfigured).toValue
  | .log => afterKey i r <| afterLimit r fun limit => do
    let entries ← recentLog limit
    return .json (.list (entries.map LogEntry.toValue))

/-- Answers a request. -/
def answer (i : Interface) (r : HttpRequest) : Program HttpResponse :=
  match r.destination with
  | .route route => answerRoute i r route
  | .otherMethod route =>
      return .problem 405 "Method Not Allowed" [("allow", route.method)]
  | .redirect => return { status := 307, body := .text "" }
  | .nowhere => return .problem 404 "Not Found" []

/-- The answer to a request whose program failed. -/
def internalError : HttpResponse :=
  { status := 500, body := .text "Internal Server Error" }

/-- A response as it goes out: without its body if only its head was asked
for. -/
def outgoing (r : HttpRequest) (response : HttpResponse) : HttpResponse :=
  if r.method = "HEAD" then { response with body := .text "" } else response

/-- Answers a request in a world. -/
def respond (o : Origins) (i : Interface) (w : World) (r : HttpRequest)
    (s : State) :
    HttpResponse × State :=
  match o.preflight? r with
  | some response => (response, s)
  | none =>
    match w.run (answer i r) s with
    | (.ok response, s) => (outgoing r (o.mark r response), s)
    | (.error _, s) => (outgoing r internalError, s)

end Notices.Api
