import Notices.Email.Client
import Notices.Text.Base64
import Notices.Text.DecimalDigit
import Notices.Url.Percent
import Notices.Value.Spelling

/-!
# Sending SMS

An account at an SMS provider sends a text message with one HTTP request, whose
body is a form.  The provider replies in JSON.

* `Account.send` makes at most one request, and none if the account is not
  configured or the number is none.  An account whose base address names no host
  makes its request in vain.
* `outcomeOf` reads a reply: it is read as JSON first, and then its status
  decides.

A number may be typed in any way: `Phone.normalize?` keeps its digits and puts a
plus in front of them.  Ten digits are a number without country code and get the
code 1.  Fewer digits are no number.
-/

namespace Notices

namespace Phone

/-- The decimal digits of a text, of whatever script. -/
def digits (s : List Char) : List Char := s.filter Text.isDecimalDigit

/-- The international form of a number with its country code. -/
def normalize? (s : List Char) : Option (List Char) :=
  let ds := digits s
  if ds.length = 10 then some ('+' :: '1' :: ds)
  else if 10 < ds.length then some ('+' :: ds)
  else none

/-- The text of a number given as any value, if it can be written; one that does
not count as given has none. -/
def textOf (v : Value) : List Char := if v.isTruthy then v.spell else []

/-- Normalises a number given as any value, if its text can be written. -/
def read? (v : Value) : Except Failure (Option (List Char)) :=
  if v.isTruthy then v.write.map normalize? else .ok (normalize? [])

end Phone

namespace Sms

/-- An account at an SMS provider. -/
structure Account where
  sid : Option String
  token : Option String
  number : Option String
  baseUrl : String
  deriving DecidableEq, Repr

/-- A request to the provider. -/
structure Request where
  url : String
  sid : String
  token : String
  form : List (String × String)
  deriving DecidableEq, Repr

namespace Request

/-- The method of every request. -/
def method : String := "POST"

/-- The content type of every request. -/
def contentType : String := "application/x-www-form-urlencoded"

/-- The body of a request. -/
def content (r : Request) : String := String.ofList (Url.formText r.form)

/-- The credentials of a request. -/
def authorization (r : Request) : String :=
  String.ofList ("Basic ".toList ++
    Text.base64 (Text.utf8 (r.sid.toList ++ ':' :: r.token.toList)))

end Request

/-- The answer to a request: a status with a text, or a failure. -/
inductive Reply where
  | raised (f : Failure)
  | answered (status : Int) (text : String)
  deriving DecidableEq, Repr

/-- Whether a status says that the request was granted. -/
def isSuccess (status : Int) : Bool := 200 ≤ status && status ≤ 299

/-- A field of a reply, which has one only if it is an object. -/
def replyField (v : Value) (name : String) : Value :=
  match v with
  | .object fields => (Fields.get? fields name).getD .null
  | _ => .null

/-- The reason that a reply gives for a refusal, if it gives one. -/
def refusal (status : Int) (v : Value) : Checked Outcome :=
  let reason := replyField v "message"
  if reason.isTruthy then
    ((Record.text reason).map fun s => .failed (.refused s)).under
      (.field "error")
  else .ok (.failed (.refusedWithStatus status))

/-- The id that a reply gives to the message. -/
def acceptance (v : Value) : Checked Outcome :=
  ((Record.nullable Record.text (replyField v "sid")).map .delivered).under
    (.field "message_id")

/-- What became of a message, by the reply to its request. -/
def outcomeOf : Reply → Checked Outcome
  | .raised f => .ok (.failed (.raised f))
  | .answered status text =>
    match Json.read text with
    | .error f => .ok (.failed (.replyNotJson f))
    | .ok v => if isSuccess status then acceptance v else refusal status v

/-- What became of a message, and the request that was made for it.  A reply
whose fields are of the wrong kind has faults. -/
structure Attempted where
  outcome : Checked Outcome
  request : Option Request

namespace Account

/-- Whether the account can be used. -/
def isConfigured (a : Account) : Bool :=
  Email.isGiven a.sid && Email.isGiven a.token && Email.isGiven a.number

/-- A text without the slashes at its end. -/
def dropSlashes (s : List Char) : List Char :=
  (s.reverse.dropWhile (· == '/')).reverse

/-- The address to which the account makes its requests. -/
def endpoint (a : Account) : List Char :=
  dropSlashes a.baseUrl.toList ++ "/2010-04-01/Accounts/".toList ++
    (a.sid.getD "").toList ++
    "/Messages.json".toList

/-- The request for a message to a number, at the target of an address. -/
def requestAt (a : Account) (address : Url.Address) (number : List Char)
    (body : String) : Request where
  url := String.ofList address.target.text
  sid := a.sid.getD ""
  token := a.token.getD ""
  form := [("To", String.ofList number), ("From", a.number.getD ""),
    ("Body", body)]

/-- What became of a message whose request was made for an address.  The reply
to a request for an address that is not absolute does not count. -/
def outcomeAt (address : Url.Address) (request : Request) (reply : Reply) :
    Checked Outcome :=
  match reply with
  | .raised f => .ok (.failed (.raised f))
  | reply =>
    if address.isAbsolute then outcomeOf reply
      else .ok (.failed (.relativeUrl request.url))

/-- Sends a message to a number that may be typed in any way, by a
provider that replies. -/
def send (a : Account) (reply : Request → Reply) (destination body : String) :
    Attempted :=
  if !a.isConfigured then ⟨.ok (.failed .smsNotConfigured), none⟩
  else
    match Phone.normalize? destination.toList with
    | none => ⟨.ok (.failed .badNumber), none⟩
    | some number =>
      match Url.Address.parse a.endpoint with
      | .error p => ⟨.ok (.failed (.badUrl p)), none⟩
      | .ok address =>
        let request := a.requestAt address number body
        ⟨outcomeAt address request (reply request), some request⟩

end Account

end Sms

end Notices
