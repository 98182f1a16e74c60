import Notices.Record.Fault
import Notices.Text.Class
import Notices.Url.Percent
import Notices.Value.Basic

/-!
# HTTP messages

A request has a method, a target, headers and a body; a response has a status,
headers and a body, which is a JSON value or a text.
-/

namespace Notices.Api

/-- A request. -/
structure HttpRequest where
  method : String
  target : String
  headers : List (String × String)
  body : String
  deriving DecidableEq, Repr

/-- The body of a response. -/
inductive Body where
  | json (v : Value)
  | text (s : String)

/-- A response. -/
structure HttpResponse where
  status : Nat
  headers : List (String × String) := []
  body : Body

namespace HttpRequest

/-- The value of a header, whose name may be in upper or lower case. -/
def header? (r : HttpRequest) (name : String) : Option String :=
  (r.headers.find? fun header => header.1.toLower == name).map (·.2)

/-- The path of the target, with the places that its dots stand for. -/
def path (r : HttpRequest) : List Char :=
  let raw := r.target.toList.takeWhile fun c => c != '?' && c != '#'
  Url.decodeText
    (Url.normalizePath (if raw.head? = some '/' then raw else '/' :: raw))

/-- The names and values of the query, in their order. -/
def query (r : HttpRequest) : List (List Char × List Char) :=
  let raw := (r.target.toList.takeWhile (· != '#')).dropWhile (· != '?')
  let parts := (Text.parts '&' (raw.drop 1)).filter (!·.isEmpty)
  parts.map fun part =>
    (Url.decodeFormText (part.takeWhile (· != '=')),
      Url.decodeFormText ((part.dropWhile (· != '=')).drop 1))

/-- The value of a name in the query; of several the last. -/
def parameter? (r : HttpRequest) (name : String) : Option (List Char) :=
  (r.query.reverse.find? fun pair => pair.1 == name.toList).map (·.2)

/-- Whether the body is declared to be JSON. -/
def isJson (r : HttpRequest) : Bool :=
  match r.header? "content-type" with
  | none => false
  | some declared =>
    let media := Text.trimBy Text.isBlank (declared.toList.takeWhile (· != ';'))
    let media := media.map Char.toLower
    let kind := media.takeWhile (· != '/')
    let subkind := (media.dropWhile (· != '/')).drop 1
    kind == "application".toList && !subkind.contains '/' &&
      (subkind == "json".toList || "+json".toList.isSuffixOf subkind)

end HttpRequest

namespace HttpResponse

/-- A response with a JSON body. -/
def json (v : Value) : HttpResponse := { status := 200, body := .json v }

/-- A response that says in words what is wrong. -/
def problem (status : Nat) (detail : String)
    (headers : List (String × String)) : HttpResponse :=
  { status, headers, body := .json (.object [("detail", .string detail)]) }

/-- A step of a path as JSON. -/
def ofStep : Step → Value
  | .field name | .alternative name => .string name
  | .position n => .int n

/-- A fault as JSON. -/
def ofFault (f : Fault) : Value :=
  .object [("loc", .list (f.path.map ofStep)), ("type", .string f.kind.code)]

/-- A response that lists the faults of a request. -/
def invalid (faults : List Fault) : HttpResponse :=
  { status := 422,
    body := .json (.object [("detail", .list (faults.map ofFault))]) }

/-- Whether a response says that the request was refused. -/
def isRefusal (r : HttpResponse) : Bool := 400 ≤ r.status && r.status < 500

end HttpResponse

end Notices.Api
