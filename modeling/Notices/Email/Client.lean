import Notices.SendError

/-!
# Sending email

An account at a mail server sends a mail by composing a message and submitting
it.  The server accepts the message or fails.

* `Account.send` makes at most one submission, and none if the account is not
  configured or the mail cannot be composed.
-/

namespace Notices.Email

/-- An account at a mail server. -/
structure Account where
  host : Option String
  port : Int
  username : Option String
  password : Option String
  timeout : Binary64
  deriving DecidableEq, Repr

/-- What is handed to a mail server. -/
structure Submission where
  message : Message
  host : Option String
  port : Int
  username : Option String
  password : Option String
  useTls : Bool
  startTls : Option Bool
  timeout : Binary64
  deriving DecidableEq, Repr

/-- The answer of a mail server: it accepted the message, it failed, or
it refused with a code. -/
inductive Reply where
  | accepted
  | raised (f : Failure)
  | refused (kind : String) (code : Int) (text : String)
  deriving DecidableEq, Repr

/-- A refusal as a failure: its text has the code and the quoted words. -/
def Reply.failure? : Reply → Option Failure
  | .accepted => none
  | .raised f => some f
  | .refused kind code text =>
    some ⟨kind, String.ofList
      ('(' :: intText code ++ [',', ' '] ++ Text.quoted text.toList ++ [')'])⟩

/-- A text that is there and not empty. -/
def isGiven : Option String → Bool
  | some s => !s.isEmpty
  | none => false

/-- What became of a mail, and what was handed to the server for it. -/
structure Attempted where
  outcome : Outcome
  submission : Option Submission
  deriving DecidableEq, Repr

namespace Account

/-- The port on which a connection is encrypted from the start. -/
def encryptedPort : Int := 465

/-- Whether the account can be used. -/
def isConfigured (a : Account) : Bool :=
  isGiven a.host && isGiven a.username && isGiven a.password

/-- What the account hands to its server for a message.  A connection that is
not encrypted from the start becomes so if the server offers it. -/
def submit (a : Account) (message : Message) : Submission where
  message
  host := a.host
  port := a.port
  username := a.username
  password := a.password
  useTls := a.port = encryptedPort
  startTls := if a.port = encryptedPort then some false else none
  timeout := a.timeout

/-- Sends a mail as the message with a number to a server that replies. -/
def send (a : Account) (reply : Submission → Reply) (number : Nat)
    (mail : Mail) : Attempted :=
  if !a.isConfigured then ⟨.failed .emailNotConfigured, none⟩
  else
    match mail.compose? number with
    | .error e => ⟨.failed (.badMail e), none⟩
    | .ok message =>
      let submission := a.submit message
      match (reply submission).failure? with
      | some f => ⟨.failed (.raised f), some submission⟩
      | none => ⟨.delivered (some message.id), some submission⟩

/-- Whether sending a mail uses up a number. -/
def usesNumber (a : Account) (mail : Mail) : Bool :=
  a.isConfigured && mail.usesNumber

end Account

end Notices.Email
