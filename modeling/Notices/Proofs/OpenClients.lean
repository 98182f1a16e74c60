import Mathlib.Data.List.Nodup
import Notices.Proofs.Connection

/-!
# Clients that are left open

Every connection makes a client of its own, and to close the connection closes
the latest client, whether it is open or not.  So a client is closed as often as
the connection is closed before the next one is made: it may be closed again,
and if it was not closed by then it stays open for good.

* `connects` and `closesInTime` count the connections that some actions make,
  and how often they close the connection before they make another one.
* `Database.IsAccounted` is what every action keeps: a database is selected
  exactly while the latest client is open.
* `Database.count_closed_run` says how often some actions close a
  client that is there already.
* `Database.length_openClients_eq_iff` says when only a client of which a
  database is selected is open.
* `clients_are_closed_until_the_next_connection` puts these together.
-/

namespace Notices

/-- How many connections some actions make. -/
def connects : List DatabaseAction → Nat
  | [] => 0
  | .connect _ _ _ :: rest => connects rest + 1
  | .close :: rest => connects rest
  | .createIndexes _ :: rest => connects rest

/-- How often some actions close the connection before they make another one. -/
def closesInTime : List DatabaseAction → Nat
  | [] => 0
  | .connect _ _ _ :: _ => 0
  | .close :: rest => closesInTime rest + 1
  | .createIndexes _ :: rest => closesInTime rest

/-- Some actions close a client that they have closed already. -/
def ClosesAgain (actions : List DatabaseAction) : Prop :=
  ∃ before url selection failure after,
    actions = before ++ .connect url selection failure :: after ∧
      1 < closesInTime after

/-- Some actions make a connection while they have not closed the one before
it. -/
def ConnectsAgain (actions : List DatabaseAction) : Prop :=
  ∃ before url selection failure after,
    actions = before ++ .connect url selection failure :: after ∧
      closesInTime after = 0 ∧ 0 < connects after

/-- The connections of two lists of actions add up. -/
theorem connects_append (actions more : List DatabaseAction) :
    connects (actions ++ more) = connects actions + connects more := by
  induction actions with
  | nil => simp [connects]
  | cons action rest ih =>
      cases action <;> simp only [List.cons_append, connects, ih]
      omega

/-- Of the connections that some actions make, each is made by one of them. -/
theorem exists_connect {actions : List DatabaseAction} {n : Nat}
    (h : n < connects actions) :
    ∃ before url selection failure after,
      actions = before ++ .connect url selection failure :: after ∧
      connects before = n := by
  induction actions generalizing n with
  | nil => exact absurd h (Nat.not_lt_zero n)
  | cons action rest ih =>
      cases action with
      | connect url selection failure =>
          cases n with
          | zero => exact ⟨[], url, selection, failure, rest, rfl, rfl⟩
          | succ n =>
              obtain ⟨before, url', selection', failure', after, rfl,
                hbefore⟩ := ih (Nat.lt_of_succ_lt_succ h)
              exact ⟨.connect url selection failure :: before, url', selection',
                failure', after, rfl, congrArg (· + 1) hbefore⟩
      | close =>
          obtain ⟨before, url, selection, failure, after, rfl, hbefore⟩ := ih h
          exact ⟨.close :: before, url, selection, failure, after, rfl, hbefore⟩
      | createIndexes outcome =>
          obtain ⟨before, url, selection, failure, after, rfl, hbefore⟩ := ih h
          exact ⟨.createIndexes outcome :: before, url, selection, failure,
            after, rfl, hbefore⟩

namespace Database

/-- The clients that were made and are not closed, by their numbers. -/
def openClients (d : Database) : List Nat :=
  (List.range d.clients.length).filter fun n => n ∉ d.closed

/-! ## What every action keeps -/

/-- The latest client is the one that was made last, only clients that
were made are closed, and a database is selected exactly while the
latest client is open. -/
structure IsAccounted (d : Database) : Prop where
  latest_iff : ∀ n, d.latest = some n ↔ n + 1 = d.clients.length
  lt_of_closed : ∀ n ∈ d.closed, n < d.clients.length
  isConnected_iff : d.isConnected = true ↔ ∃ n, d.latest = some n ∧ n ∉ d.closed

/-- At the start there are no clients. -/
theorem isAccounted_start : ({} : Database).IsAccounted where
  latest_iff := by simp
  lt_of_closed := by simp
  isConnected_iff := by simp [isConnected]

variable {d : Database}

/-- To connect keeps the clients accounted for. -/
theorem IsAccounted.connect (h : d.IsAccounted) (url : String)
    (selection : Selection) :
    (d.connect url selection).IsAccounted := by
  have hlength : (d.connect url selection).clients.length =
      d.clients.length + 1 := by simp [Database.connect]
  -- the new client has a number that no closed one has
  have hnew : d.clients.length ∉ d.closed :=
    fun hclosed => Nat.lt_irrefl _ (h.lt_of_closed _ hclosed)
  constructor
  · intro n
    rw [hlength]
    simp only [Database.connect, Option.some.injEq]
    omega
  · intro n hn
    have hlt := h.lt_of_closed n hn
    omega
  · simp [Database.connect, isConnected, hnew]

/-- What closing does if there is a client. -/
theorem close_eq {client : Nat} (hlatest : d.latest = some client) :
    d.close = { d with selected := none, closed := d.closed ++ [client] } := by
  rw [close, hlatest]

/-- To close keeps the clients accounted for. -/
theorem IsAccounted.close (h : d.IsAccounted) : d.close.IsAccounted := by
  cases hlatest : d.latest with
  | none =>
      have hsame : d.close = d := by rw [Database.close, hlatest]
      rw [hsame]
      exact h
  | some client =>
      have hlength := (h.latest_iff client).mp hlatest
      rw [close_eq hlatest]
      constructor
      · exact h.latest_iff
      · intro n hn
        simp only [List.mem_append, List.mem_singleton] at hn
        rcases hn with hclosed | rfl
        · exact h.lt_of_closed n hclosed
        · show n < d.clients.length
          omega
      · simp [isConnected, hlatest]

/-- Every action keeps the clients accounted for. -/
theorem IsAccounted.perform (h : d.IsAccounted) (action : DatabaseAction) :
    (d.perform action).database.IsAccounted := by
  cases action with
  | connect url selection failure => exact h.connect url selection
  | close => exact h.close
  | createIndexes failure => exact h

/-- A list of actions keeps the clients accounted for. -/
theorem IsAccounted.run (h : d.IsAccounted) (actions : List DatabaseAction) :
    (d.run actions).IsAccounted := by
  induction actions generalizing d with
  | nil => exact h
  | cons action rest ih => exact ih (h.perform action)

/-! ## How often a client is closed -/

/-- Every connection makes a client. -/
theorem length_clients_run (d : Database) (actions : List DatabaseAction) :
    (d.run actions).clients.length = d.clients.length + connects actions := by
  induction actions generalizing d with
  | nil => rfl
  | cons action rest ih =>
      have hrest := ih (d.perform action).database
      show ((d.perform action).database.run rest).clients.length = _
      rw [hrest]
      cases action with
      | connect url selection failure =>
          simp only [Database.perform, createIndexes, Database.connect,
            List.length_append, List.length_singleton, connects]
          omega
      | close =>
          cases hlatest : d.latest <;>
            simp only [Database.perform, Database.close, hlatest, connects]
      | createIndexes failure => rfl

/-- From the start there are as many clients as connections were made. -/
theorem length_clients_start (actions : List DatabaseAction) :
    (({} : Database).run actions).clients.length = connects actions := by
  rw [length_clients_run]
  exact Nat.zero_add _

/-- Some actions close the latest client as often as they close the
connection before they make another one, and they close no client
that was made before it. -/
theorem count_closed_run (h : d.IsAccounted) {n : Nat}
    (hn : n < d.clients.length) (actions : List DatabaseAction) :
    (d.run actions).closed.count n =
      d.closed.count n + if n + 1 = d.clients.length then closesInTime actions
        else 0 := by
  induction actions generalizing d with
  | nil => simp [Database.run, closesInTime]
  | cons action rest ih =>
      show ((d.perform action).database.run rest).closed.count n = _
      cases action with
      | connect url selection failure =>
          have hlength : (d.connect url selection).clients.length =
              d.clients.length + 1 := by
            simp [Database.connect]
          have hrest := ih (h.connect url selection) (by omega)
          have hearlier : ¬ n + 1 = d.clients.length + 1 := by omega
          rw [hlength, if_neg hearlier] at hrest
          rw [closesInTime, ite_self]
          exact hrest
      | createIndexes failure => exact ih h hn
      | close =>
          obtain ⟨client, hclient⟩ : ∃ client, client + 1 = d.clients.length :=
            ⟨d.clients.length - 1, by omega⟩
          have hlatest := (h.latest_iff client).mpr hclient
          have hclosed : d.close.closed = d.closed ++ [client] := by
            rw [close_eq hlatest]
          have hclients : d.close.clients = d.clients := by
            rw [close_eq hlatest]
          have hrest := ih h.close (by rw [hclients]; exact hn)
          rw [hclosed, hclients, List.count_append, List.count_singleton]
            at hrest
          show (d.close.run rest).closed.count n = _
          rw [hrest, closesInTime]
          by_cases hlast : n + 1 = d.clients.length
          · have hsame : client = n := by omega
            simp [hlast, hsame]
            omega
          · have hother : client ≠ n := by omega
            simp [hlast, hother]

/-- From the start, the client of a connection is closed as often as the
connection is closed before the next one. -/
theorem count_closed (before : List DatabaseAction) (url : String)
    (selection : Selection) (failure : Option Failure)
    (after : List DatabaseAction) :
    (({} : Database).run (before ++
      .connect url selection failure :: after)).closed.count (connects before) =
      closesInTime after := by
  have h := isAccounted_start.run before
  have hnumber := length_clients_start before
  let d := (({} : Database).run before).connect url selection
  have hlength : connects before + 1 = d.clients.length := by
    simp [d, Database.connect, hnumber]
  have hnone : d.closed.count (connects before) = 0 := by
    apply List.count_eq_zero_of_not_mem
    intro hmem
    have hlt := h.lt_of_closed _ hmem
    omega
  have hrun : ({} : Database).run
      (before ++ .connect url selection failure :: after) = d.run after :=
    List.foldl_append
  have hmade : connects before < d.clients.length := by omega
  rw [hrun, count_closed_run (h.connect url selection) hmade, if_pos hlength,
    hnone, Nat.zero_add]

/-! ## Which clients are open -/

/-- No client but one of which a database is selected is open exactly if all
clients but the latest are closed. -/
theorem length_openClients_eq_iff (h : d.IsAccounted) :
    d.openClients.length = (if d.isConnected then 1 else 0) ↔
      ∀ n, n + 1 < d.clients.length → n ∈ d.closed := by
  unfold openClients
  cases hlength : d.clients.length with
  | zero =>
      have hnever : d.isConnected = false := by
        rw [Bool.eq_false_iff]
        intro hconnected
        obtain ⟨n, hlatest, -⟩ := h.isConnected_iff.mp hconnected
        have hn := (h.latest_iff n).mp hlatest
        omega
      simp [hnever]
  | succ last =>
      have hlatest : d.latest = some last :=
        (h.latest_iff last).mpr hlength.symm
      have hconnected : d.isConnected = decide (last ∉ d.closed) := by
        rw [Bool.eq_iff_iff, h.isConnected_iff]
        simp [hlatest]
      have hlast : ([last].filter fun n => decide (n ∉ d.closed)).length =
          if d.isConnected then 1 else 0 := by
        rw [hconnected]
        by_cases hclosed : last ∈ d.closed <;> simp [hclosed]
      rw [List.range_succ, List.filter_append, List.length_append, hlast,
        Nat.add_eq_right, List.length_eq_zero_iff, List.filter_eq_nil_iff]
      simp

/-- From the start, no client is closed twice exactly if no client is closed
again before the next connection. -/
theorem nodup_closed_iff (actions : List DatabaseAction) :
    (({} : Database).run actions).closed.Nodup ↔ ¬ ClosesAgain actions := by
  rw [List.nodup_iff_count_le_one]
  constructor
  · intro honce hagain
    obtain ⟨before, url, selection, failure, after, rfl, htwice⟩ := hagain
    have hcount := honce (connects before)
    rw [count_closed] at hcount
    omega
  · intro hnever n
    by_cases hmade : n < connects actions
    · obtain ⟨before, url, selection, failure, after, rfl, rfl⟩ :=
        exists_connect hmade
      rw [count_closed]
      by_contra htwice
      exact hnever
        ⟨before, url, selection, failure, after, rfl, Nat.lt_of_not_le htwice⟩
    · -- there is no client of this number
      have hnot : n ∉ (({} : Database).run actions).closed := by
        intro hmem
        have hlt := (isAccounted_start.run actions).lt_of_closed n hmem
        rw [length_clients_start] at hlt
        exact hmade hlt
      rw [List.count_eq_zero_of_not_mem hnot]
      exact Nat.zero_le 1

/-- From the start, no client but one of which a database is selected is open
exactly if every connection was closed before the next one was made. -/
theorem length_openClients_run_iff (actions : List DatabaseAction) :
    let d := ({} : Database).run actions
    d.openClients.length = (if d.isConnected then 1 else 0) ↔
      ¬ ConnectsAgain actions := by
  intro d
  have hmade : d.clients.length = connects actions :=
    length_clients_start actions
  rw [length_openClients_eq_iff (isAccounted_start.run actions), hmade]
  constructor
  · intro hclosed hagain
    obtain ⟨before, url, selection, failure, after, rfl, hopen, hlater⟩ :=
      hagain
    have hnumber : connects before + 1 <
        connects (before ++ .connect url selection failure :: after) := by
      simp only [connects_append, connects]
      omega
    have hcount := List.count_pos_iff.mpr (hclosed _ hnumber)
    rw [count_closed] at hcount
    omega
  · intro hnever n hn
    obtain ⟨before, url, selection, failure, after, rfl, rfl⟩ :=
      exists_connect (Nat.lt_of_succ_lt hn)
    have hlater : 0 < connects after := by
      simp only [connects_append, connects] at hn
      omega
    rw [← List.count_pos_iff, count_closed, Nat.pos_iff_ne_zero]
    intro hopen
    exact hnever ⟨before, url, selection, failure, after, rfl, hopen, hlater⟩

end Database

/-- **Clients are closed until the next connection.**  Whatever is done with
the connection from the start, every connection makes a client, and no others
are closed.  The client of the next connection will be closed as often as that
connection is closed before another one is made, and never after that.  So no
client is closed twice exactly if no connection is closed again before the next
one; and the clients that are open are the one of which a database is selected,
if there is one, and no other, exactly if every connection was closed before
the next one was made. -/
theorem clients_are_closed_until_the_next_connection
    (actions : List DatabaseAction) :
    let d := ({} : Database).run actions
    d.clients.length = connects actions ∧
    d.closed ⊆ List.range d.clients.length ∧
    (∀ url selection failure after,
      (({} : Database).run (actions ++ .connect url selection failure ::
        after)).closed.count d.clients.length =
        closesInTime after) ∧
    (d.closed.Nodup ↔ ¬ ClosesAgain actions) ∧
    (d.openClients.length = (if d.isConnected then 1 else 0) ↔
      ¬ ConnectsAgain actions) := by
  intro d
  have hmade : d.clients.length = connects actions :=
    Database.length_clients_start actions
  refine ⟨hmade, ?_, ?_, Database.nodup_closed_iff actions,
    Database.length_openClients_run_iff actions⟩
  · intro n hclosed
    exact List.mem_range.mpr
      ((Database.isAccounted_start.run actions).lt_of_closed n hclosed)
  · intro url selection failure after
    rw [hmade]
    exact Database.count_closed actions url selection failure after

/-- A client whose connection is closed twice is closed twice.  One whose
connection is made again without being closed stays open beside the new one. -/
theorem client_is_closed_twice_or_stays_open :
    let shop : DatabaseAction :=
      .connect "mongodb://shop" { name := "shop" } none
    let stopped := ({} : Database).run [shop, .close, .close]
    let restarted := ({} : Database).run [shop, shop]
    stopped.clients.length = 1 ∧ stopped.closed = [0, 0] ∧
      ¬ stopped.closed.Nodup ∧
      restarted.isConnected = true ∧ restarted.openClients = [0, 1] ∧
      restarted.openClients.length ≠ if restarted.isConnected then 1
        else 0 := by
  decide

end Notices
