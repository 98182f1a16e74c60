import Notices.Proofs.Recent

/-!
# Odd documents in the log

The log may hold documents that are no entries, since other programs write
there, too.  A look at the log reads all documents of its page before it gives
any of them, so one that is no entry hides all the others.

* `Store.entryOf?` is the entry of a document.
* `Store.RanksDocuments` says what it means that documents stand in the
  order of the newest, and `Store.ranksDocuments_newestFirst` that they do
  so on the pages of the log.
* `Store.entriesOf?_eq_some` and `Store.entriesOf?_eq_none` say what is read of
  a page without odd documents and of one with some.
* `World.run_recentLog_of_entries` and `World.run_recentLog_of_odd` say so of a
  look at the log, and `odd_documents_hide_the_others` of looks with all limits.
-/

namespace Notices

namespace Store

/-- The entry of a document, if it is the document of one. -/
def entryOf? (doc : Fields) : Option LogEntry :=
  (LogEntry.read .notRecord (.object (content doc))).value?

/-! ## The order of the documents -/

/-- Documents stand in the order of the newest: each is at least as new as those
behind it, and those of the same time stand as they did before. -/
structure RanksDocuments (docs ranked : List Fields) : Prop where
  perm : ranked.Perm docs
  sorted : ranked.Pairwise fun doc other => isNewer doc other = true
  stable : ∀ x,
    ranked.filter (createdAt? · = x) = docs.filter (createdAt? · = x)

theorem isNewer_trans (a b c : Fields) (hab : isNewer a b = true)
    (hbc : isNewer b c = true) :
    isNewer a c = true := by
  unfold isNewer at hab hbc ⊢
  cases ha : createdAt? a <;> cases hb : createdAt? b <;>
    cases hc : createdAt? c <;> simp_all
  omega

theorem isNewer_total (a b : Fields) : (isNewer a b || isNewer b a) = true := by
  unfold isNewer
  cases ha : createdAt? a <;> cases hb : createdAt? b <;> simp
  omega

/-- Documents of the same time are as new as each other. -/
theorem isNewer_of_createdAt? {a b : Fields} (h : createdAt? a = createdAt? b) :
    isNewer a b = true := by
  unfold isNewer
  rw [h]
  cases createdAt? b <;> simp

/-- The documents of the log are put into the order of the newest. -/
theorem ranksDocuments_newestFirst (log : List Fields) :
    RanksDocuments log (newestFirst log) where
  perm := log.mergeSort_perm isNewer
  sorted := List.pairwise_mergeSort isNewer_trans isNewer_total log
  stable x := by
    refine filter_mergeSort isNewer_trans isNewer_total log fun a b ha hb => ?_
    exact isNewer_of_createdAt?
      ((of_decide_eq_true ha).trans (of_decide_eq_true hb).symm)

/-! ## Pages with and without odd documents -/

/-- Of documents that are all entries the entries are read. -/
theorem entriesOf?_eq_some {docs : List Fields}
    (h : ∀ doc ∈ docs, (entryOf? doc).isSome) :
    entriesOf? docs = some (docs.filterMap entryOf?) := by
  induction docs with
  | nil => rfl
  | cons doc rest ih =>
      obtain ⟨entry, hentry⟩ :=
        Option.isSome_iff_exists.mp (h doc (List.mem_cons_self ..))
      rw [List.filterMap_cons_some hentry]
      exact entriesOf?_cons hentry
        (ih fun other hother => h other (List.mem_cons_of_mem _ hother))

/-- Of documents one of which is no entry nothing is read. -/
theorem entriesOf?_eq_none {docs : List Fields} {odd : Fields}
    (hmem : odd ∈ docs) (hodd : entryOf? odd = none) :
    entriesOf? docs = none := by
  induction docs with
  | nil => cases hmem
  | cons doc rest ih =>
      rw [entriesOf?_cons_eq]
      rcases List.mem_cons.mp hmem with rfl | hrest
      · unfold entryOf? at hodd
        rw [hodd, Option.bind_none]
      · rw [ih hrest]
        exact Option.bind_fun_none _

end Store

/-! ## A look at a log with odd documents -/

namespace World

variable {w : World} {s : State} {limit : Nat}

/-- A look at a page of entries gives all of them. -/
theorem run_recentLog_of_entries (hreads : w.outage.readLog = false)
    (h : ∀ doc ∈ (Store.newestFirst s.log).take limit,
      (Store.entryOf? doc).isSome) :
    w.run (recentLog limit) s =
      (.ok (((Store.newestFirst s.log).take limit).filterMap Store.entryOf?),
        s) := by
  have hrecent : (w.store s).recent limit =
      ((Store.newestFirst s.log).take limit).filterMap Store.entryOf? :=
    congrArg (Option.getD · []) (Store.entriesOf?_eq_some h)
  rw [run_recentLog hreads, hrecent]

/-- A look at a page with an odd document gives nothing. -/
theorem run_recentLog_of_odd (hreads : w.outage.readLog = false) {odd : Fields}
    (hmem : odd ∈ (Store.newestFirst s.log).take limit)
    (hodd : Store.entryOf? odd = none) :
    w.run (recentLog limit) s = (.ok [], s) := by
  have hrecent : (w.store s).recent limit = [] :=
    congrArg (Option.getD · []) (Store.entriesOf?_eq_none hmem hodd)
  rw [run_recentLog hreads, hrecent]

/-- A look gives the entries of its page exactly if the page has no odd
document, or nothing else. -/
theorem run_recentLog_eq_iff (hreads : w.outage.readLog = false) :
    let page := (Store.newestFirst s.log).take limit
    (w.run (recentLog limit) s).1 = .ok (page.filterMap Store.entryOf?) ↔
      (∀ doc ∈ page, (Store.entryOf? doc).isSome) ∨
        ∀ doc ∈ page, Store.entryOf? doc = none := by
  intro page
  by_cases hentries : ∀ doc ∈ page, (Store.entryOf? doc).isSome
  · exact ⟨fun _ => Or.inl hentries,
      fun _ => congrArg Prod.fst (run_recentLog_of_entries hreads hentries)⟩
  · -- an odd document leaves nothing to be given, so there must not be an
    -- entry on the page
    obtain ⟨odd, hmem, hodd⟩ : ∃ odd ∈ page, Store.entryOf? odd = none := by
      simpa only [not_forall, Option.not_isSome_iff_eq_none, exists_prop]
        using hentries
    rw [run_recentLog_of_odd hreads hmem hodd, Except.ok.injEq, eq_comm,
      List.filterMap_eq_nil_iff]
    exact ⟨Or.inr, fun h => h.resolve_left hentries⟩

end World

/-- **Odd documents hide the others.**  A look at the log, which can be read,
gives the entries of the newest documents, in their order, if all of them are
entries.  One that is not keeps a look with this limit or a greater one from
giving any entry at all.  So a look gives the entries among the newest documents
exactly if all of these documents are entries, or none of them is. -/
theorem odd_documents_hide_the_others {w : World}
    (hreads : w.outage.readLog = false) (s : State) :
    let ranked := Store.newestFirst s.log
    Store.RanksDocuments s.log ranked ∧
    ∀ limit,
      let page := ranked.take limit
      let recent := w.run (recentLog limit) s
      recent.2 = s ∧
      ((∀ doc ∈ page, (Store.entryOf? doc).isSome) →
        recent.1 = .ok (page.filterMap Store.entryOf?)) ∧
      (∀ odd ∈ page, Store.entryOf? odd = none →
        ∀ more, limit ≤ more → (w.run (recentLog more) s).1 = .ok []) ∧
      (recent.1 = .ok (page.filterMap Store.entryOf?) ↔
        (∀ doc ∈ page, (Store.entryOf? doc).isSome) ∨
          ∀ doc ∈ page, Store.entryOf? doc = none) := by
  intro ranked
  refine ⟨Store.ranksDocuments_newestFirst s.log, fun limit => ⟨?_, ?_, ?_, ?_⟩⟩
  · rw [World.run_recentLog hreads]
  · intro hentries
    exact congrArg Prod.fst (World.run_recentLog_of_entries hreads hentries)
  · intro odd hmem hodd more hmore
    have hfurther : odd ∈ ranked.take more :=
      List.take_subset_take_left ranked hmore hmem
    exact congrArg Prod.fst (World.run_recentLog_of_odd hreads hfurther hodd)
  · exact World.run_recentLog_eq_iff hreads

/-- The document of an entry of the shop, with a word for its channel and a
time. -/
def Store.exampleOf (channel : String) (createdAt : Timestamp) : Fields := [
  ("log_id", .string "a"), ("recipient", .string "ana@example.com"),
  ("type", .string channel), ("body", .string "Hi"),
  ("created_at", .time createdAt)]

/-- In a log of the shop, with the fax of another program between two mails,
the mail in front of the fax is given as long as the limit does not reach the
fax, and then nothing is. -/
theorem fax_behind_a_mail :
    let time (n : Nat) := World.shop.now.addSeconds n
    let newest := Store.exampleOf "email" (time 2)
    let fax := Store.exampleOf "fax" (time 1)
    let s : State := { log := [newest, fax, Store.exampleOf "email" (time 0)] }
    let entry : LogEntry :=
      { id := "a", recipient := "ana@example.com", channel := .email,
        body := "Hi", createdAt := time 2 }
    World.shop.outage.readLog = false ∧
    (World.shop.run (recentLog 1) s).1 = .ok [entry] ∧
    ∀ more, 2 ≤ more → (World.shop.run (recentLog more) s).1 = .ok [] := by
  intro time newest fax s entry
  have hreads : World.shop.outage.readLog = false := rfl
  obtain ⟨-, hpages⟩ := odd_documents_hide_the_others hreads s
  have hranked : Store.newestFirst s.log = s.log :=
    List.mergeSort_of_pairwise (by decide)
  rw [hranked] at hpages
  refine ⟨hreads, ?_, fun more hmore => ?_⟩
  · exact (hpages 1).2.1 (by decide)
  · exact (hpages 2).2.2.1 fax (by simp [s]) rfl more hmore

/-- A fax that another program puts down after a mail keeps the mail from being
shown, though it is an entry and within the limit. -/
theorem fax_hides_a_mail :
    let mail := Store.exampleOf "email" World.shop.now
    let fax := Store.exampleOf "fax" (World.shop.now.addSeconds 1)
    let s : State := { log := [mail, fax] }
    World.shop.outage.readLog = false ∧
      mail ∈ (Store.newestFirst s.log).take 10 ∧
      (Store.entryOf? mail).isSome ∧ Store.entryOf? fax = none ∧
      (World.shop.run (recentLog 10) s).1 = .ok [] := by
  intro mail fax s
  have hpage : (Store.newestFirst s.log).take 10 = Store.newestFirst s.log :=
    List.take_of_length_le (by simp [Store.newestFirst, s])
  have hmem : ∀ doc ∈ s.log, doc ∈ (Store.newestFirst s.log).take 10 := by
    intro doc hdoc
    rw [hpage]
    exact List.mem_mergeSort.mpr hdoc
  have hfax : Store.entryOf? fax = none := rfl
  refine ⟨rfl, hmem mail (by simp [s]), rfl, hfax, ?_⟩
  exact congrArg Prod.fst
    (World.run_recentLog_of_odd rfl (hmem fax (by simp [s])) hfax)

end Notices
