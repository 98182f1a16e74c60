import Notices.LogEntry
import Notices.Settings
import Notices.Template

/-!
# The store

The store keeps documents: one with the settings, the templates, and the log.
A document may be anything that another program has written, so each is read as
a record when it is asked for.  The identity that the store gives to a document
is no field of the record.

* `Store.settings?` and `Store.findTemplate?` give no record for a
  document that is not one.
* `Store.recent` gives the newest entries, or none at all if one of
  their documents is no entry.
-/

namespace Notices

/-- The documents of the store. -/
structure Store where
  settings : Option Fields := none
  templates : List Fields := []
  log : List Fields := []
  deriving Repr, Inhabited

namespace Store

/-- The fields of a document but for the identity that the store gives it. -/
def content (doc : Fields) : Fields := doc.erase "_id"

/-- The record of a document, if there is one and it has fields. -/
def recordOf {α : Type} (read : Record.Reader α) (doc : Option Fields) :
    Option α :=
  match doc.map content with
  | none => none
  | some [] => none
  | some fields => (read (.object fields)).value?

/-- The settings. -/
def settings? (s : Store) : Option Settings :=
  recordOf (Settings.read .notRecord) s.settings

/-- Whether a field of a document is a certain text. -/
def hasText (name text : String) (doc : Fields) : Bool :=
  match doc.get? name with
  | some (.string s) => s == text
  | _ => false

/-- The document of an entry is one of its channel. -/
theorem hasText_type_toFields (e : LogEntry) (channel : Channel) :
    hasText "type" channel.word e.toFields = decide (e.channel = channel) := by
  obtain ⟨_, _, _, _, own⟩ := e
  cases own <;> cases channel <;> rfl

/-- The record of the first template whose document passes a test. -/
def findTemplate? (s : Store) (test : Fields → Bool) : Option Template :=
  recordOf (Template.read .notRecord) (s.templates.find? test)

/-- The first template of a channel and a trigger. -/
def template? (s : Store) (channel : Channel) (trigger : String) :
    Option Template :=
  s.findTemplate? fun doc => hasText "type" channel.word doc &&
    hasText "trigger" trigger doc

/-- The first template with an id. -/
def templateById? (s : Store) (id : String) : Option Template :=
  s.findTemplate? (hasText "template_id" id)

/-- When a document of the log was created. -/
def createdAt? (doc : Fields) : Option Int :=
  match doc.get? "created_at" with
  | some (.time t) => some t.instant
  | _ => none

/-- Whether a document is at least as new as another.  One without a time is the
oldest. -/
def isNewer (a b : Fields) : Bool :=
  match createdAt? a, createdAt? b with
  | _, none => true
  | none, some _ => false
  | some x, some y => y ≤ x

/-- The documents of the log, the newest first; of two of the same time the one
that was written first. -/
def newestFirst (log : List Fields) : List Fields := log.mergeSort isNewer

/-- The entries of documents, if all of them are entries. -/
def entriesOf? : List Fields → Option (List LogEntry)
  | [] => some []
  | doc :: rest =>
    match (LogEntry.read .notRecord (.object (content doc))).value?,
      entriesOf? rest with
    | some entry, some entries => some (entry :: entries)
    | _, _ => none

/-- The entries of documents are that of the first one and those of the others,
if all of them are entries. -/
theorem entriesOf?_cons_eq (doc : Fields) (rest : List Fields) :
    entriesOf? (doc :: rest) =
      (LogEntry.read .notRecord (.object (content doc))).value?.bind
      fun entry => (entriesOf? rest).map (entry :: ·) := by
  have hstep : entriesOf? (doc :: rest) =
      match (LogEntry.read .notRecord (.object (content doc))).value?,
        entriesOf? rest with
      | some entry, some entries => some (entry :: entries)
      | _, _ => none := by rfl
  rw [hstep]
  cases (LogEntry.read .notRecord (.object (content doc))).value? with
  | none => rfl
  | some entry => cases entriesOf? rest <;> rfl

/-- Documents of which the first is an entry, and the others are, have the entry
of the first before the others. -/
theorem entriesOf?_cons {doc : Fields} {rest : List Fields} {entry : LogEntry}
    {entries : List LogEntry}
    (hdoc : (LogEntry.read .notRecord (.object (content doc))).value? =
      some entry)
    (hrest : entriesOf? rest = some entries) :
    entriesOf? (doc :: rest) = some (entry :: entries) := by
  rw [entriesOf?_cons_eq, hdoc, hrest, Option.bind_some, Option.map_some]

/-- The newest entries of the log. -/
def recent (s : Store) (limit : Nat) : List LogEntry :=
  (entriesOf? ((newestFirst s.log).take limit)).getD []

end Store

end Notices
