import Notices.Email.Message
import Notices.Service.Attempt
import Notices.Settings
import Notices.Template

/-!
# Programs of the service

What the service does is a program: it asks for something, waits for the answer,
and goes on with it.  An answer may be a failure, which ends the program unless
it is caught.  What answers is not part of the program, so one program can be
run against any world, and its steps can be interleaved with those of others.

* `Program.bind` is sequencing, and `Program.attempt` catches a failure.
* `Program.bind_done` and `Program.bind_assoc` make programs a lawful monad.
-/

namespace Notices

/-- What the service asks for. -/
inductive Request where
  | settings
  | template (channel : Channel) (trigger : String)
  | templateById (id : String)
  | email (mail : Email.Mail)
  | sms (recipient body : String)
  | record (attempt : Attempt)
  | unknownTrigger (trigger : String)
  | recent (limit : Nat)
  | now
  deriving DecidableEq, Repr

/-- What the answer to a request is, if it is no failure. -/
abbrev Request.Answer : Request → Type
  | .settings => Option Settings
  | .template _ _ => Option Template
  | .templateById _ => Option Template
  | .email _ => Outcome
  | .sms _ _ => Outcome
  | .record _ => Bool
  | .unknownTrigger _ => Unit
  | .recent _ => List LogEntry
  | .now => Timestamp

/-- A program that ends with a value or a failure. -/
inductive Program (α : Type) where
  | done (a : α)
  | failed (f : Failure)
  | ask (r : Request) (next : Except Failure r.Answer → Program α)

namespace Program

variable {α β : Type}

/-- One program after another, which goes on with the value of the first. -/
def bind : Program α → (α → Program β) → Program β
  | .done a, k => k a
  | .failed f, _ => .failed f
  | .ask r next, k => .ask r fun answer => (next answer).bind k

instance : Monad Program where
  pure := .done
  bind := Program.bind

/-- A program followed by nothing is that program. -/
theorem bind_done (p : Program α) : p.bind .done = p := by
  induction p with
  | done a => rfl
  | failed f => rfl
  | ask r next ih =>
    have hnext : (fun answer => (next answer).bind .done) = next := funext ih
    simp only [bind, hnext]

/-- Of three programs in a row it does not matter which two are put together
first. -/
theorem bind_assoc {γ : Type} (p : Program α) (k : α → Program β)
    (l : β → Program γ) :
    (p.bind k).bind l = p.bind fun a => (k a).bind l := by
  induction p with
  | done a => rfl
  | failed f => rfl
  | ask r next ih =>
    have hnext : (fun answer => ((next answer).bind k).bind l) =
        fun answer => (next answer).bind fun a => (k a).bind l := funext ih
    simp only [bind, hnext]

instance : LawfulMonad Program :=
  LawfulMonad.mk' Program (fun p => bind_done p) (fun _ _ => rfl)
    (fun p k l => bind_assoc p k l)

/-- A program that ends with the failure of another as a value. -/
def attempt : Program α → Program (Except Failure α)
  | .done a => .done (.ok a)
  | .failed f => .done (.error f)
  | .ask r next => .ask r fun answer => (next answer).attempt

/-- What has been worked out, or has failed to be. -/
def ofExcept : Except Failure α → Program α
  | .ok a => .done a
  | .error f => .failed f

/-- Asks for something.  If the answer is a failure, so is the program. -/
def call (r : Request) : Program r.Answer :=
  .ask r fun
    | .ok a => .done a
    | .error f => .failed f

end Program

end Notices
