import Mathlib.Data.List.Forall2
import Notices.Proofs.Course
import Notices.Service.Report

/-!
# The newest entries of the log

What is written to the log comes back from it.  A look at the log gives the
newest entries, and of entries that were created at the same time it gives the
one first that was written first.

* `Store.Holds` says that a document is the one of an entry, and
  `Store.holds_toFields` that the document that is written for an entry is.
* `Ranks` says what it means that entries stand in the order of a look at the
  log, and `ranks_iff` that there is exactly one such order.
* `World.record_eq_write` says that what the service records is an entry that is
  written, and `World.holds_log_writeAll` what the documents of the log hold
  behind any number of writes.
* `Store.recent_of_holds` says what a look at a log gives whose documents are
  those of certain entries.
* `recent_gives_back_what_was_written` says so of a log that entries were
  written to.
-/

namespace Notices

/-! ## The order of the newest -/

section Sorted

variable {α : Type} {key : α → Int} {l l' : List α}

/-- Lists whose parts with equal keys are the same have the same elements. -/
theorem mem_iff_of_filter_eq
    (hparts : ∀ x, l.filter (key · = x) = l'.filter (key · = x)) (a : α) :
    a ∈ l ↔ a ∈ l' := by
  have hpart := congrArg (a ∈ ·) (hparts (key a))
  simpa using hpart

/-- A list that is sorted by a key, the greatest first, begins with an
element of the greatest key. -/
theorem key_le_of_mem {a b : α}
    (hsorted : (b :: l).Pairwise fun a b => key b ≤ key a) (h : a ∈ b :: l) :
    key a ≤ key b := by
  rcases List.mem_cons.mp h with rfl | ha
  · exact Int.le_refl _
  · exact (List.pairwise_cons.mp hsorted).1 a ha

/-- A list that is sorted by a key, the greatest first, is determined by its
parts with equal keys. -/
theorem eq_of_sorted_of_filter_eq
    (hsorted : l.Pairwise fun a b => key b ≤ key a)
    (hsorted' : l'.Pairwise fun a b => key b ≤ key a)
    (hparts : ∀ x, l.filter (key · = x) = l'.filter (key · = x)) : l = l' := by
  have hmem := mem_iff_of_filter_eq hparts
  induction l generalizing l' with
  | nil =>
      cases l' with
      | nil => rfl
      | cons b l' =>
          exact absurd ((hmem b).mpr (List.mem_cons_self ..)) List.not_mem_nil
  | cons a l ih =>
      cases l' with
      | nil =>
          exact absurd ((hmem a).mp (List.mem_cons_self ..)) List.not_mem_nil
      | cons b l' =>
          -- both lists begin with an element of the greatest key,
          -- and so with the same one
          have hle : key a ≤ key b :=
            key_le_of_mem hsorted' ((hmem a).mp (List.mem_cons_self ..))
          have hge : key b ≤ key a :=
            key_le_of_mem hsorted ((hmem b).mpr (List.mem_cons_self ..))
          have hkey : key b = key a := by omega
          have hfirst := hparts (key a)
          simp only [List.filter_cons, hkey, decide_true, if_true] at hfirst
          obtain rfl := (List.cons.inj hfirst).1
          have hrest : ∀ x, l.filter (key · = x) = l'.filter (key · = x) := by
            intro x
            have hx := hparts x
            rw [List.filter_cons, List.filter_cons] at hx
            split at hx
            · exact (List.cons.inj hx).2
            · exact hx
          exact congrArg (a :: ·)
            (ih hsorted.tail hsorted'.tail hrest (mem_iff_of_filter_eq hrest))

/-- Sorting keeps the order of elements that all stand above each other. -/
theorem filter_mergeSort {le : α → α → Bool}
    (htrans : ∀ a b c, le a b = true → le b c = true → le a c = true)
    (htotal : ∀ a b, (le a b || le b a) = true) (l : List α) {test : α → Bool}
    (htied : ∀ a b, test a = true → test b = true → le a b = true) :
    (l.mergeSort le).filter test = l.filter test := by
  -- these elements are sorted as they are, so sorting all of them keeps their
  -- order
  have hsorted : (l.filter test).Pairwise fun a b => le a b := by
    refine List.pairwise_of_forall_mem_list fun a ha b hb => ?_
    exact htied a b (List.mem_filter.mp ha).2 (List.mem_filter.mp hb).2
  have hkept :=
    (List.sublist_mergeSort htrans htotal hsorted List.filter_sublist).filter
      test
  rw [List.filter_filter] at hkept
  simp only [Bool.and_self] at hkept
  exact (hkept.eq_of_length
    ((l.mergeSort_perm le).filter _).length_eq.symm).symm

end Sorted

/-- Entries stand in the order of the newest: they are sorted by the
time of their creation, the latest first, and those of the same time
stand as they did before. -/
structure Ranks (entries ranked : List LogEntry) : Prop where
  perm : ranked.Perm entries
  sorted : ranked.Pairwise fun a b => b.createdAt.instant ≤ a.createdAt.instant
  stable : ∀ x, ranked.filter (·.createdAt.instant = x) =
    entries.filter (·.createdAt.instant = x)

/-- Whether an entry was created at the same time as another, or later. -/
def LogEntry.isNewer (a b : LogEntry) : Bool :=
  b.createdAt.instant ≤ a.createdAt.instant

/-- Entries in the order of the newest. -/
def LogEntry.newestFirst (entries : List LogEntry) : List LogEntry :=
  entries.mergeSort isNewer

theorem ranks_newestFirst (entries : List LogEntry) :
    Ranks entries (LogEntry.newestFirst entries) := by
  have htrans : ∀ a b c : LogEntry, a.isNewer b = true → b.isNewer c = true →
      a.isNewer c = true := by
    simp only [LogEntry.isNewer, decide_eq_true_eq]
    omega
  have htotal : ∀ a b : LogEntry, (a.isNewer b || b.isNewer a) = true := by
    simp only [LogEntry.isNewer, Bool.or_eq_true, decide_eq_true_eq]
    omega
  have hperm : (LogEntry.newestFirst entries).Perm entries :=
    entries.mergeSort_perm LogEntry.isNewer
  refine ⟨hperm, ?_, ?_⟩
  · have hsorted := List.pairwise_mergeSort htrans htotal entries
    exact hsorted.imp fun h => by simpa [LogEntry.isNewer] using h
  · intro x
    refine filter_mergeSort htrans htotal entries fun a b ha hb => ?_
    simp only [decide_eq_true_eq] at ha hb
    simp [LogEntry.isNewer, ha, hb]

/-- There is exactly one way to put entries into the order of the newest. -/
theorem ranks_iff {entries ranked : List LogEntry} :
    Ranks entries ranked ↔ ranked = LogEntry.newestFirst entries := by
  have hnewest := ranks_newestFirst entries
  constructor
  · intro h
    refine eq_of_sorted_of_filter_eq h.sorted hnewest.sorted fun x => ?_
    rw [h.stable, hnewest.stable]
  · rintro rfl
    exact hnewest

namespace Store

/-! ## Documents of entries -/

/-- A document holds an entry: it is read as that entry, and the time of its
creation is stored as a time. -/
structure Holds (doc : Fields) (e : LogEntry) : Prop where
  reads : LogEntry.read .notRecord (.object (content doc)) = .ok e
  created : doc.get? "created_at" = some (.time e.createdAt)

/-- The document that is written for an entry holds it. -/
theorem holds_toFields (e : LogEntry) : Holds e.toFields e :=
  ⟨e.read_toValue .notRecord, rfl⟩

/-- Documents that hold entries are at least as new as others if their entries
are. -/
theorem Holds.isNewer_eq {doc other : Fields} {e e' : LogEntry}
    (h : Holds doc e) (h' : Holds other e') :
    isNewer doc other = e.isNewer e' := by
  simp [isNewer, createdAt?, h.created, h'.created, LogEntry.isNewer]

/-- The entries of documents are those that the documents hold. -/
theorem entriesOf?_of_holds {docs : List Fields} {entries : List LogEntry}
    (h : List.Forall₂ Holds docs entries) : entriesOf? docs = some entries := by
  induction h with
  | nil => rfl
  | cons hdoc _ ih =>
      exact entriesOf?_cons (congrArg Checked.value? hdoc.reads) ih

/-- Documents in the order of the newest hold their entries in that order. -/
theorem holds_newestFirst {docs : List Fields} {entries : List LogEntry}
    (h : List.Forall₂ Holds docs entries) :
    List.Forall₂ Holds (newestFirst docs) (LogEntry.newestFirst entries) := by
  -- documents are sorted together with their entries
  let pairs := docs.zip entries
  obtain ⟨hlength, hholds⟩ := List.forall₂_iff_zip.mp h
  have hfst : pairs.map Prod.fst = docs :=
    List.map_fst_zip (Nat.le_of_eq hlength)
  have hsnd : pairs.map Prod.snd = entries :=
    List.map_snd_zip (Nat.le_of_eq hlength.symm)
  let sorted := pairs.mergeSort fun p q => p.2.isNewer q.2
  have hdocs : sorted.map Prod.fst = newestFirst docs := by
    rw [← hfst]
    refine List.map_mergeSort fun p hp q hq => ?_
    exact ((hholds hp).isNewer_eq (hholds hq)).symm
  have hentries : sorted.map Prod.snd = LogEntry.newestFirst entries := by
    rw [← hsnd]
    exact List.map_mergeSort fun p _ q _ => rfl
  rw [← hdocs, ← hentries, List.forall₂_map_left_iff,
    List.forall₂_map_right_iff, List.forall₂_same]
  intro p hp
  exact hholds (List.mem_mergeSort.mp hp)

/-- A look at a log whose documents hold entries gives the newest of them. -/
theorem recent_of_holds {s : Store} {entries : List LogEntry}
    (h : List.Forall₂ Holds s.log entries) (limit : Nat) :
    s.recent limit = (LogEntry.newestFirst entries).take limit := by
  have htaken := List.forall₂_take limit (holds_newestFirst h)
  rw [recent, entriesOf?_of_holds htaken]
  rfl

end Store

/-! ## Writing to the log -/

namespace World

/-- Writes an entry to the log, and says whether that went well. -/
def write (w : World) (e : LogEntry) (s : State) : Bool × State :=
  let failing := w.outage.writeLog s.writes
  let s := { s with writes := s.writes + 1 }
  if failing then (false, s)
  else (true, { s with log := s.log ++ [e.toFields] }.put (.logged e.toFields))

/-- To record an attempt is to write its entry. -/
theorem record_eq_write (w : World) (attempt : Attempt) (s : State) :
    w.record attempt s =
      w.write (attempt.stamp (w.logIds s.writes) w.now) s := rfl

/-- Writes entries to the log, one after another. -/
def writeAll (w : World) (s : State) (entries : List LogEntry) : State :=
  entries.foldl (fun s e => (w.write e s).2) s

variable {w : World}

/-- Entries that are written while no write fails are held by the documents
behind the earlier ones. -/
theorem holds_log_writeAll (hwrites : ∀ n, w.outage.writeLog n = false)
    {s : State} {held : List LogEntry}
    (hheld : List.Forall₂ Store.Holds s.log held) (written : List LogEntry) :
    List.Forall₂ Store.Holds (w.writeAll s written).log (held ++ written) := by
  induction written generalizing s held with
  | nil => simpa [writeAll] using hheld
  | cons e written ih =>
      have hlog : (w.write e s).2.log = s.log ++ [e.toFields] := by
        simp [write, hwrites, State.put]
      have hstep :
          List.Forall₂ Store.Holds (w.write e s).2.log (held ++ [e]) := by
        rw [hlog]
        exact List.rel_append hheld (.cons (Store.holds_toFields e) .nil)
      simpa [writeAll] using ih hstep

/-- While reads do not fail, a look at the log gives what the store
finds, and changes nothing. -/
theorem run_recentLog (hreads : w.outage.readLog = false) (s : State)
    (limit : Nat) :
    w.run (recentLog limit) s = (.ok ((w.store s).recent limit), s) := by
  rw [recentLog, run_call]
  simp [answer, collaborator?, serve, hreads]

/-- While reads do not fail, a look at a log whose documents hold entries
gives the newest of them. -/
theorem run_recentLog_of_holds (hreads : w.outage.readLog = false) {s : State}
    {entries : List LogEntry} (h : List.Forall₂ Store.Holds s.log entries)
    (limit : Nat) :
    w.run (recentLog limit) s =
      (.ok ((LogEntry.newestFirst entries).take limit), s) := by
  have hrecent : (w.store s).recent limit =
      (LogEntry.newestFirst entries).take limit :=
    Store.recent_of_holds h limit
  rw [run_recentLog hreads, hrecent]

end World

/-- **The newest entries.**  The documents of a log hold entries, and more
entries are written behind them, while neither writes nor reads fail.  Then
there is exactly one order of all these entries in which the newest come first
and those of the same time stay in the order in which they were written, and a
look at the log gives as many of them as its limit allows, in this order and as
they were written.  So a look with a smaller limit gives the front of what a
look with a greater one gives. -/
theorem recent_gives_back_what_was_written {w : World}
    (hwrites : ∀ n, w.outage.writeLog n = false)
    (hreads : w.outage.readLog = false) {s : State} {held : List LogEntry}
    (hheld : List.Forall₂ Store.Holds s.log held) (written : List LogEntry) :
    let recent (limit : Nat) :=
      (w.run (recentLog limit) (w.writeAll s written)).1
    (∃ ranked, (∀ other, Ranks (held ++ written) other ↔ other = ranked) ∧
      ∀ limit, recent limit = .ok (ranked.take limit)) ∧
    ∀ fewer more, fewer ≤ more →
      recent fewer = (recent more).map (·.take fewer) := by
  intro recent
  let ranked := LogEntry.newestFirst (held ++ written)
  have hholds := World.holds_log_writeAll hwrites hheld written
  have hrecent : ∀ limit, recent limit = .ok (ranked.take limit) := fun limit =>
    congrArg Prod.fst (World.run_recentLog_of_holds hreads hholds limit)
  refine ⟨⟨ranked, fun other => ranks_iff, hrecent⟩, ?_⟩
  intro fewer more hle
  rw [hrecent, hrecent]
  simp [Except.map, List.take_take, Nat.min_eq_left hle]

/-- A document of the log of the shop, which the store has given an identity
and which lacks the fields that an entry may do without, holds an entry.
Behind it the shop records a mail and a text message of the same time, and an
entry that is still pending. -/
theorem recent_of_a_mail_and_a_text_message :
    let doc : Fields :=
      [("_id", .int 1), ("log_id", .string "old"),
        ("recipient", .string "ana@example.com"), ("type", .string "email"),
        ("body", .string "Hi"), ("created_at", .time World.shop.now)]
    let held : LogEntry :=
      { id := "old", recipient := "ana@example.com", channel := .email,
        body := "Hi",
        createdAt := World.shop.now }
    let attempt (channel : Channel) : Attempt :=
      { channel, recipient := "ana@example.com", subject := none, body := "Hi",
        templateId := "mail-1",
        outcome := .delivered none, links := {} }
    let written : List LogEntry :=
      [(attempt .email).stamp "entry-0" World.shop.now,
      (attempt .sms).stamp "entry-1" World.shop.now,
        { held with createdAt := World.shop.now.addSeconds 1 }]
    let s : State := { log := [doc] }
    (∀ n, World.shop.outage.writeLog n = false) ∧
    World.shop.outage.readLog = false ∧
    List.Forall₂ Store.Holds s.log [held] ∧
    let recent (limit : Nat) :=
      (World.shop.run (recentLog limit) (World.shop.writeAll s written)).1
    (∃ ranked, (∀ other, Ranks ([held] ++ written) other ↔ other = ranked) ∧
      ∀ limit, recent limit = .ok (ranked.take limit)) ∧
    ∀ fewer more, fewer ≤ more →
      recent fewer = (recent more).map (·.take fewer) := by
  intro doc held attempt written s
  have hheld : List.Forall₂ Store.Holds s.log [held] := .cons ⟨rfl, rfl⟩ .nil
  have hwrites : ∀ n, World.shop.outage.writeLog n = false := fun _ => rfl
  exact ⟨hwrites, rfl, hheld,
    recent_gives_back_what_was_written hwrites rfl hheld written⟩

end Notices
