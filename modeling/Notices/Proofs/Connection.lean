import Notices.Database

/-!
# The life of the connection

The latest client and the selected database are kept apart, and closing the
connection resets only the database.  Still no more than the last action that
connects or closes decides what is selected, whatever happened before it.  To
make a client and to select a database of it are taken to succeed; neither of
them waits for the server.

* `Move` is an action, or a change of the collections that refuse their indexes.
* `Database.IsClosable` is what every action keeps: a database is selected of a
  client only that can be closed.
* `Database.selectedName_close` and `Database.selectedName_move` say what a move
  leaves selected, and `Database.selectedName_afterAll` what all of them do.
* `Database.selectedName_lifespan` says that nothing is selected
  behind a life of the service.
* `Database.mem_createdIndexes` says which collections get their indexes.
* `connection_is_decided_by_the_last_action` puts these together.
-/

namespace Notices

/-- What happens to the connection: an action, or other collections begin to
refuse their indexes. -/
inductive Move where
  | act (action : DatabaseAction)
  | refuse (collections : List String)
  deriving DecidableEq, Repr

/-- A move that neither connects nor closes. -/
inductive Move.IsQuiet : Move → Prop
  | createIndexes (failure : Option Failure) :
      IsQuiet (.act (.createIndexes failure))
  | refuse (collections : List String) : IsQuiet (.refuse collections)

/-- Of some moves the last one that connects or closes connects, and it selects
the database of a name. -/
def EndsConnected (moves : List Move) (name : String) : Prop :=
  ∃ before url selection failure after,
    moves = before ++ .act (.connect url selection failure) :: after ∧
      selection.name = name ∧
      ∀ move ∈ after, move.IsQuiet

namespace Database

/-- The name of the selected database. -/
def selectedName (d : Database) : Option String := d.selected.map (·.name)

/-- The connection behind a move. -/
def move (d : Database) : Move → Database
  | .act action => (d.perform action).database
  | .refuse collections =>
    { d with
      selected := d.selected.map fun selection =>
        { selection with refusing := collections } }

/-- The connection behind some moves. -/
def afterAll (d : Database) (moves : List Move) : Database := moves.foldl move d

/-! ## What a move selects -/

/-- A database is selected only of a client that closing would close. -/
def IsClosable (d : Database) : Prop := d.selected.isSome → d.latest.isSome

/-- Every move keeps the connection one that closing would close. -/
theorem IsClosable.move {d : Database} (h : d.IsClosable) (m : Move) :
    (d.move m).IsClosable := by
  unfold IsClosable at h ⊢
  cases m with
  | refuse collections =>
      intro hselected
      exact h (by simpa [Database.move] using hselected)
  | act action =>
      cases action with
      | connect url selection failure => intro _; rfl
      | createIndexes failure => exact h
      | close =>
          cases hlatest : d.latest with
          | none => simpa [Database.move, perform, close, hlatest] using h
          | some client => simp [Database.move, perform, close, hlatest]

/-- To close leaves no database selected. -/
theorem selectedName_close {d : Database} (h : d.IsClosable) :
    (d.move (.act .close)).selectedName = none := by
  cases hselected : d.selected with
  | none => cases hlatest : d.latest <;>
      simp [Database.move, perform, close, selectedName, hlatest, hselected]
  | some selection =>
      -- there is a client, since a database of it is selected
      obtain ⟨client, hlatest⟩ :=
        Option.isSome_iff_exists.mp (h (by rw [hselected]; rfl))
      simp [Database.move, perform, close, selectedName, hlatest]

/-- A quiet move leaves the name of the selected database. -/
theorem selectedName_move {d : Database} {m : Move} (h : m.IsQuiet) :
    (d.move m).selectedName = d.selectedName := by
  cases h with
  | createIndexes failure => rfl
  | refuse collections => simp [Database.move, selectedName, Function.comp_def]

/-- Further moves go on with the connection that the first ones have left. -/
theorem afterAll_append (d : Database) (moves more : List Move) :
    d.afterAll (moves ++ more) = (d.afterAll moves).afterAll more :=
  List.foldl_append

/-- A run of actions is these actions as moves. -/
theorem afterAll_map_act (d : Database) (actions : List DatabaseAction) :
    d.afterAll (actions.map .act) = d.run actions :=
  List.foldl_map

/-- All moves keep the connection one that closing would close. -/
theorem IsClosable.afterAll {d : Database} (h : d.IsClosable)
    (moves : List Move) :
    (d.afterAll moves).IsClosable := by
  induction moves generalizing d with
  | nil => exact h
  | cons m moves ih => exact ih (h.move m)

/-- A life of the service leaves no database selected, whatever was done in
it. -/
theorem selectedName_lifespan (d : Database) (url : String)
    (selection : Selection) (failure : Option Failure)
    (actions : List DatabaseAction) :
    (d.lifespan url selection failure actions).2.selectedName = none := by
  have hstarted :
      (d.perform (.connect url selection failure)).database.IsClosable :=
    fun _ => rfl
  have hserved := hstarted.afterAll (actions.map .act)
  rw [afterAll_map_act] at hserved
  exact selectedName_close hserved

/-- Quiet moves leave the name of the selected database. -/
theorem selectedName_afterAll_of_quiet (d : Database) {moves : List Move}
    (h : ∀ m ∈ moves, m.IsQuiet) :
    (d.afterAll moves).selectedName = d.selectedName := by
  induction moves generalizing d with
  | nil => rfl
  | cons m moves ih =>
      have hfirst := selectedName_move (d := d) (h m (List.mem_cons_self ..))
      have hrest := ih (d.move m) fun other hother =>
        h other (List.mem_cons_of_mem _ hother)
      exact hrest.trans hfirst

/-- What is selected behind some moves was selected by the last of them that
connects or closes, and if there is none, it was selected before. -/
theorem endsConnected_of_selectedName {d : Database} (h : d.IsClosable)
    {moves : List Move} {name : String}
    (hname : (d.afterAll moves).selectedName = some name) :
    EndsConnected moves name ∨
    ((∀ m ∈ moves, m.IsQuiet) ∧ d.selectedName = some name) := by
  induction moves generalizing d with
  | nil => exact Or.inr ⟨nofun, hname⟩
  | cons m moves ih =>
      rcases ih (h.move m) hname with ⟨before, hends⟩ | ⟨hquiet, hbefore⟩
      · obtain ⟨url, selection, failure, after, rfl, hrest⟩ := hends
        exact Or.inl ⟨m :: before, url, selection, failure, after, rfl, hrest⟩
      · have hstill : m.IsQuiet →
            (∀ other ∈ m :: moves, other.IsQuiet) ∧
              d.selectedName = some name := fun hm =>
          ⟨List.forall_mem_cons.mpr ⟨hm, hquiet⟩,
            (selectedName_move hm).symm.trans hbefore⟩
        cases m with
        | refuse collections => exact Or.inr (hstill (.refuse collections))
        | act action =>
            cases action with
            | createIndexes failure =>
                exact Or.inr (hstill (.createIndexes failure))
            | connect url selection failure =>
                exact Or.inl ⟨[], url, selection, failure, moves, rfl,
                  Option.some.inj hbefore, hquiet⟩
            | close =>
                rw [selectedName_close h] at hbefore
                cases hbefore

/-- Behind moves that end connected the database of that name is selected. -/
theorem selectedName_of_endsConnected (d : Database) {moves : List Move}
    {name : String} (h : EndsConnected moves name) :
    (d.afterAll moves).selectedName = some name := by
  obtain ⟨before, url, selection, failure, after, rfl, rfl, hquiet⟩ := h
  rw [afterAll_append]
  show (Database.afterAll
      (Database.move _ (.act (.connect url selection failure)))
        after).selectedName = _
  rw [selectedName_afterAll_of_quiet _ hquiet]
  rfl

/-- From the start a database is selected exactly behind moves that end
connected. -/
theorem selectedName_afterAll (moves : List Move) (name : String) :
    (({} : Database).afterAll moves).selectedName = some name ↔
      EndsConnected moves name := by
  refine ⟨fun hname => ?_, selectedName_of_endsConnected _⟩
  have hstart : ({} : Database).IsClosable :=
    fun hselected => absurd hselected (by decide)
  rcases endsConnected_of_selectedName hstart hname with hends | ⟨-, hstart⟩
  · exact hends
  · cases hstart

/-- What a name stands for is resolved by the selected database. -/
theorem access_eq {α : Type} (d : Database) (resolve : String → String → α)
    (name : String) :
    d.access resolve name = match d.selectedName with
      | some database => .ok (resolve database name)
      | none => .error .notConnected := by
  unfold access selectedName
  cases d.selected <;> rfl

/-! ## Which collections get their indexes -/

/-- While a database is selected, creating the indexes gives all planned indexes
to the collections that do not refuse them. -/
theorem mem_createdIndexes {d : Database} {selection : Selection}
    (h : d.selected = some selection) (entry : String × List Index) :
    entry ∈ d.createdIndexes ↔
      entry ∈ indexPlan ∧ entry.1 ∉ selection.refusing := by
  unfold createdIndexes
  simp [h]

end Database

/-- **The last action decides.**  Behind any moves from the start, connecting
and closing do not fail.  A database is selected exactly if of all actions that
connect or close the last one has connected, and it is the database that this
one named.  It resolves every name, in whichever form it is accessed, and while
none is selected every access fails.  Whenever the indexes are created for a
selected database, which connecting does too, exactly the collections that do
not refuse theirs get all of them. -/
theorem connection_is_decided_by_the_last_action (moves : List Move) :
    let d := ({} : Database).afterAll moves
    ((∀ url selection failure,
      (d.perform (.connect url selection failure)).failure = none) ∧
      (d.perform .close).failure = none) ∧
    (∀ name, d.selectedName = some name ↔ EndsConnected moves name) ∧
    (∀ name, EndsConnected moves name →
      ∀ (α : Type) (resolve : String → String → α) (n : String),
      d.access resolve n = .ok (resolve name n)) ∧
    ((∀ name, ¬ EndsConnected moves name) →
      ∀ (α : Type) (resolve : String → String → α) (n : String),
      d.access resolve n = .error .notConnected) ∧
    (∀ name, EndsConnected moves name →
      ∀ (refusing : List String) (entry : String × List Index),
      entry ∈ ((d.move (.refuse refusing)).perform
        (.createIndexes none)).created ↔
        entry ∈ indexPlan ∧ entry.1 ∉ refusing) ∧
    ∀ (url name : String) (refusing : List String)
      (entry : String × List Index),
      entry ∈ (d.perform (.connect url { name, refusing } none)).created ↔
        entry ∈ indexPlan ∧ entry.1 ∉ refusing := by
  intro d
  have hselected : ∀ name, d.selectedName = some name ↔
      EndsConnected moves name :=
    Database.selectedName_afterAll moves
  refine ⟨⟨fun _ _ _ => rfl, rfl⟩, hselected, fun name hends => ?_,
    fun hnever => ?_, fun name hends => ?_, ?_⟩
  · intro α resolve n
    rw [Database.access_eq, (hselected name).mpr hends]
  · intro α resolve n
    have hnone : d.selectedName = none :=
      Option.eq_none_iff_forall_ne_some.mpr fun name hname =>
        hnever name ((hselected name).mp hname)
    rw [Database.access_eq, hnone]
  · intro refusing entry
    obtain ⟨selection, hsome, -⟩ :=
      Option.map_eq_some_iff.mp ((hselected name).mpr hends)
    have hrefusing : (d.move (.refuse refusing)).selected =
        some { selection with refusing } := by
      simp [Database.move, d, hsome]
    exact Database.mem_createdIndexes hrefusing entry
  · intro url name refusing entry
    exact Database.mem_createdIndexes (d :=
      d.connect url { name, refusing }) rfl entry

/-- The connection is closed before there is any, and then made, closed twice,
and made again while the indexes of the log are refused and creating the indexes
fails as a whole.  This time the database of the shop is selected, until the
connection is closed once more. -/
theorem shop_is_selected_until_it_is_closed :
    let moves : List Move :=
      [.act .close, .act (.connect "mongodb://old" { name := "old" } none),
        .act .close, .act .close,
        .act (.connect "mongodb://shop"
          { name := "shop", refusing := ["notification_log"] }
          (some ⟨"RuntimeError", "no indexes"⟩)),
        .refuse ["notification_templates"]]
    let d := ({} : Database).afterAll moves
    let closed := ({} : Database).afterAll (moves ++ [.act .close])
    (EndsConnected moves "shop" ∧
      ∀ name, ¬ EndsConnected (moves ++ [.act .close]) name) ∧
    d.selectedName = some "shop" ∧
    d.access Prod.mk "orders" = .ok ("shop", "orders") ∧
    (∀ entry,
      entry ∈ ((d.move (.refuse ["notification_log"])).perform
        (.createIndexes none)).created ↔
      entry ∈ indexPlan ∧ entry.1 ∉ ["notification_log"]) ∧
    closed.access Prod.mk "orders" = .error .notConnected := by
  intro moves d closed
  have hends : EndsConnected moves "shop" :=
    (Database.selectedName_afterAll moves "shop").mp rfl
  have hnever : ∀ name, ¬ EndsConnected (moves ++ [.act .close]) name := by
    intro name hname
    cases (Database.selectedName_afterAll _ name).mpr hname
  obtain ⟨-, hselected, haccess, -, hindexes, -⟩ :=
    connection_is_decided_by_the_last_action moves
  obtain ⟨-, -, -, hfails, -⟩ :=
    connection_is_decided_by_the_last_action (moves ++ [.act .close])
  exact ⟨⟨hends, hnever⟩, (hselected "shop").mpr hends,
    haccess "shop" hends _ Prod.mk "orders",
    hindexes "shop" hends ["notification_log"],
      hfails hnever _ Prod.mk "orders"⟩

end Notices
