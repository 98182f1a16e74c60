import Notices.Failure

/-!
# The connection to the database

The service connects when it starts and closes the connection when it stops.
Connecting makes a new client, selects a database of it and creates the indexes;
a collection that refuses its indexes does not keep the others from getting
theirs.  Closing closes the latest client and leaves no database selected.

* `Database.access` is what a name stands for in the selected database, and
  fails while none is selected.
* `Database.perform` carries out an action, and `Database.run` a list of them.
  Connecting goes on if creating the indexes fails, which is a failure of its
  own only if nothing else was asked for.
* `Database.lifespan` is a life of the service, from its start to its stop.
-/

namespace Notices

/-- The order of an index. -/
inductive IndexOrder where
  | ascending
  | descending
  deriving DecidableEq, Repr

/-- The number for an order. -/
def IndexOrder.number : IndexOrder → Int
  | .ascending => 1
  | .descending => -1

/-- An index of a collection. -/
structure Index where
  keys : List (String × IndexOrder)
  unique : Bool := false
  sparse : Bool := false
  deriving DecidableEq, Repr

/-- The collections that have indexes, with their indexes. -/
def indexPlan : List (String × List Index) := [
  ("notification_templates", [
    { keys := [("template_id", .ascending)], unique := true },
    { keys := [("type", .ascending), ("trigger", .ascending)],
      unique := true }]),
  ("notification_log", [
    { keys := [("log_id", .ascending)], unique := true },
    { keys := [("created_at", .descending)] },
    { keys := [("customer_id", .ascending)], sparse := true },
    { keys := [("template_id", .ascending)], sparse := true },
    { keys := [("status", .ascending)] }])]

/-- How a client connects: how many milliseconds it looks for a server and
waits for a connection. -/
structure ClientOptions where
  serverSelection : Nat := 5000
  connect : Nat := 10000
  deriving DecidableEq, Repr

/-- A client of the database server. -/
structure Client where
  url : String
  options : ClientOptions := {}
  deriving DecidableEq, Repr

/-- A database that a client selects: its name, and which of its collections
refuse their indexes. -/
structure Selection where
  name : String
  refusing : List String := []
  deriving DecidableEq, Repr

/-- The connection: the clients that were made, the latest of them by its
number, the selected database, and the numbers of the clients that were
closed, in that order. -/
structure Database where
  clients : List Client := []
  latest : Option Nat := none
  selected : Option Selection := none
  closed : List Nat := []
  deriving DecidableEq, Repr

/-- What is done with the connection.  The creation of the indexes may fail as a
whole. -/
inductive DatabaseAction where
  | connect (url : String) (selection : Selection) (failure : Option Failure)
  | close
  | createIndexes (failure : Option Failure)
  deriving DecidableEq, Repr

/-- The indexes of some collections. -/
abbrev Indexes := List (String × List Index)

/-- What an action leaves: the connection, the indexes that were
created, and its failure. -/
structure Performed where
  database : Database
  created : Indexes := []
  failure : Option Failure := none

/-- Why the database cannot be accessed. -/
inductive DatabaseError where
  | notConnected
  deriving DecidableEq, Repr

/-- The words for an error. -/
def DatabaseError.message : DatabaseError → String
  | .notConnected => "Database not connected. Call connect_db() first."

namespace Database

/-- Whether a database is selected. -/
def isConnected (d : Database) : Bool := d.selected.isSome

/-- What a name stands for in the selected database.  A database of some name
resolves names in one way or another, as attributes or as items of it. -/
def access {α : Type} (d : Database) (resolve : String → String → α)
    (name : String) :
    Except DatabaseError α :=
  match d.selected with
  | some selection => .ok (resolve selection.name name)
  | none => .error .notConnected

/-- A collection of the selected database, by its name. -/
def collection (d : Database) (name : String) : Except DatabaseError String :=
  d.access (fun _ name => name) name

/-- The indexes that are created, collection by collection. -/
def createdIndexes (d : Database) : Indexes :=
  match d.selected with
  | some selection => indexPlan.filter fun entry =>
      !selection.refusing.contains entry.1
  | none => []

/-- Makes a new client and selects a database of it. -/
def connect (d : Database) (url : String) (selection : Selection) : Database :=
  { d with
    clients := d.clients ++ [{ url }], latest := some d.clients.length,
      selected := some selection }

/-- Closes the latest client, if there is one. -/
def close (d : Database) : Database :=
  match d.latest with
  | some client => { d with selected := none, closed := d.closed ++ [client] }
  | none => d

/-- Creates the indexes, unless that fails as a whole. -/
def createIndexes (d : Database) (failure : Option Failure) : Performed where
  database := d
  created := if failure.isNone then d.createdIndexes else []
  failure

/-- Carries out an action. -/
def perform (d : Database) : DatabaseAction → Performed
  | .connect url selection failure =>
    { (d.connect url selection).createIndexes failure with failure := none }
  | .close => { database := d.close }
  | .createIndexes failure => d.createIndexes failure

/-- The connection after a list of actions. -/
def run (d : Database) (actions : List DatabaseAction) : Database :=
  actions.foldl (fun d action => (d.perform action).database) d

/-- A life of the service: it connects, does something while it runs, and closes
the connection.  This gives what its start leaves, and the connection after its
stop. -/
def lifespan (d : Database) (url : String) (selection : Selection)
    (failure : Option Failure) (actions : List DatabaseAction) :
    Performed × Database :=
  let started := d.perform (.connect url selection failure)
  (started, ((started.database.run actions).perform .close).database)

end Database

end Notices
