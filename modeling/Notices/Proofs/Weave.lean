import Mathlib.Data.List.Forall2
import Notices.Proofs.Course

/-!
# Programs that go on in turns

Programs that run at the same time take turns: whichever is picked asks for one
thing, and then another one may be picked.  `Program.weave` is the program that
they are together, for any order of the picks.

A program that takes turns with others is answered in states that the
others have left, and at times that pass in between.  `World.Goes` says how
it can go, whatever these are.

* `World.goes_runWhile` says that a run is a way in which a program can go.
* `World.Goes.of_bind`, `World.Goes.of_map`, `World.Goes.of_attempt` and
  `World.Goes.of_call` take such ways apart.
* `World.Goes.of_weave` says that in a way of programs in turns each of them has
  gone a way of its own, and that the log has the documents of all of them.
-/

namespace Notices

namespace Program

variable {α : Type}

/-- Programs that go on in turns.  A pick is the place of the program whose
turn it is, and it passes if that has ended; when there are no more picks,
the programs go on one after another.  What each of them comes to is a
value, a failure included. -/
def weave : List Nat → List (Program α) → Program (List (Except Failure α))
  | [], programs => programs.mapM Program.attempt
  | pick :: picks, programs =>
    match programs[pick]? with
    | some (.ask r next) => .ask r fun answer =>
        weave picks (programs.set pick (next answer))
    | _ => weave picks programs

end Program

namespace World

variable {α β : Type}

/-- The same world at another time. -/
def atTime (w : World) (now : Timestamp) : World := { w with now }

/-- Runs a program while the clock goes on, which is read at each step. -/
def runWhile (w : World) (clock : Nat → Timestamp) :
    Nat → Program α → State → Except Failure α × State
  | _, .done a, s => (.ok a, s)
  | _, .failed f, s => (.error f, s)
  | n, .ask r next, s =>
    let (answer, after) := (w.atTime (clock n)).answer s r
    w.runWhile clock (n + 1) (next answer) after

/-- A request is answered in some state and at some time, and documents are
written.  The time that is read is one of certain moments. -/
def Answers (w : World) (moments : Timestamp → Prop) (r : Request)
    (answer : Except Failure r.Answer) (docs : List Fields) : Prop :=
  ∃ s now, (r = .now → moments now) ∧ ((w.atTime now).answer s r).1 = answer ∧
    ((w.atTime now).answer s r).2.log = s.log ++ docs

/-- The ways in which a program can go in a world if each request may
be answered in any state and at any time: the documents it writes,
and what it comes to. -/
inductive Goes (w : World) (moments : Timestamp → Prop) {α : Type} :
    Program α → List Fields → Except Failure α → Prop
  | done (a : α) : Goes w moments (.done a) [] (.ok a)
  | failed (f : Failure) : Goes w moments (.failed f) [] (.error f)
  | ask {r : Request} {next : Except Failure r.Answer → Program α}
      {answer : Except Failure r.Answer}
      {docs rest : List Fields} {result : Except Failure α}
      (first : w.Answers moments r answer docs)
      (further : Goes w moments (next answer) rest result) :
      Goes w moments (.ask r next) (docs ++ rest) result

variable {w : World} {moments : Timestamp → Prop}

/-- An answer has some documents written. -/
theorem exists_log_answer (w : World) (s : State) (r : Request) :
    ∃ docs, (w.answer s r).2.log = s.log ++ docs := by
  rcases w.log_answer s r with hsame | ⟨_, _, _, hlog⟩
  · exact ⟨[], by rw [hsame, List.append_nil]⟩
  · exact ⟨_, hlog⟩

/-- A run is one of the ways in which a program can go. -/
theorem goes_runWhile (w : World) (clock : Nat → Timestamp) (n : Nat)
    (p : Program α) (s : State) :
    ∃ docs, (w.runWhile clock n p s).2.log = s.log ++ docs ∧
      w.Goes (fun now => ∃ k, now = clock k) p docs
        (w.runWhile clock n p s).1 := by
  induction p generalizing n s with
  | done a => exact ⟨[], by simp [runWhile], .done a⟩
  | failed f => exact ⟨[], by simp [runWhile], .failed f⟩
  | ask r next ih =>
      obtain ⟨docs, hdocs⟩ := (w.atTime (clock n)).exists_log_answer s r
      obtain ⟨rest, hrest, hgoes⟩ :=
        ih ((w.atTime (clock n)).answer s r).1 (n + 1)
        ((w.atTime (clock n)).answer s r).2
      refine ⟨docs ++ rest, ?_,
        .ask ⟨s, clock n, fun _ => ⟨n, rfl⟩, rfl, hdocs⟩ hgoes⟩
      simp only [runWhile]
      rw [hrest, hdocs, List.append_assoc]

/-- While the clock stands still a program runs as it does at that time. -/
theorem runWhile_const (w : World) (now : Timestamp) (n : Nat) (p : Program α)
    (s : State) :
    w.runWhile (fun _ => now) n p s = (w.atTime now).run p s := by
  induction p generalizing n s with
  | done a => rfl
  | failed f => rfl
  | ask r next ih =>
      exact ih ((w.atTime now).answer s r).1 (n + 1)
        ((w.atTime now).answer s r).2

/-- A run at some time is a way that reads this time. -/
theorem goes_run (w : World) (now : Timestamp) (p : Program α) (s : State) :
    ∃ docs, ((w.atTime now).run p s).2.log = s.log ++ docs ∧
      w.Goes (· = now) p docs ((w.atTime now).run p s).1 := by
  obtain ⟨docs, hlog, hgoes⟩ := w.goes_runWhile (fun _ => now) 0 p s
  rw [runWhile_const] at hlog hgoes
  exact ⟨docs, hlog, by simpa using hgoes⟩

/-! ## Ways of parts -/

namespace Goes

theorem of_pure {a : α} {docs : List Fields} {result : Except Failure α}
    (h : w.Goes moments (pure a : Program α) docs result) :
    docs = [] ∧ result = .ok a := by
  cases h
  exact ⟨rfl, rfl⟩

/-- A request goes as it is answered. -/
theorem of_call {r : Request} {docs : List Fields}
    {result : Except Failure r.Answer}
    (h : w.Goes moments (Program.call r) docs result) :
    w.Answers moments r result docs := by
  unfold Program.call at h
  cases h with
  | @ask _ _ answer docs rest result first further =>
      cases answer with
      | ok a =>
          obtain ⟨rfl, rfl⟩ := of_pure further
          simpa using first
      | error f =>
          cases further
          simpa using first

/-- A sequence goes as its first part does, and then as the rest
does unless that failed. -/
theorem of_bind {p : Program α} {k : α → Program β} {docs : List Fields}
    {result : Except Failure β} (h : w.Goes moments (p >>= k) docs result) :
    (∃ f, w.Goes moments p docs (.error f) ∧ result = .error f) ∨
      ∃ a front back, docs = front ++ back ∧ w.Goes moments p front (.ok a) ∧
        w.Goes moments (k a) back result := by
  change w.Goes moments (p.bind k) docs result at h
  induction p generalizing docs with
  | done a => exact Or.inr ⟨a, [], docs, rfl, .done a, h⟩
  | failed f =>
      cases h
      exact Or.inl ⟨f, .failed f, rfl⟩
  | ask r next ih =>
      cases h with
      | @ask _ _ answer docs rest _ first further =>
          rcases ih answer further with ⟨f, hfailed, hresult⟩ |
            ⟨a, front, back, hdocs, hfirst, hback⟩
          · exact Or.inl ⟨f, .ask first hfailed, hresult⟩
          · exact Or.inr ⟨a, docs ++ front, back, by
              rw [hdocs, List.append_assoc],
              .ask first hfirst, hback⟩

/-- A program whose value is taken further goes as it does. -/
theorem of_map {f : α → β} {p : Program α} {docs : List Fields}
    {result : Except Failure β} (h : w.Goes moments (f <$> p) docs result) :
    ∃ found, result = found.map f ∧ w.Goes moments p docs found := by
  rw [map_eq_pure_bind] at h
  rcases h.of_bind with ⟨g, hfailed, rfl⟩ | ⟨a, front, back, rfl, hfirst, hback⟩
  · exact ⟨.error g, rfl, hfailed⟩
  · obtain ⟨rfl, rfl⟩ := hback.of_pure
    exact ⟨.ok a, rfl, by simpa using hfirst⟩

/-- A program whose failure is caught goes as it does. -/
theorem of_attempt {p : Program α} {docs : List Fields}
    {result : Except Failure (Except Failure α)}
    (h : w.Goes moments p.attempt docs result) :
    ∃ caught, result = .ok caught ∧ w.Goes moments p docs caught := by
  induction p generalizing docs with
  | done a =>
      cases h
      exact ⟨.ok a, rfl, .done a⟩
  | failed f =>
      cases h
      exact ⟨.error f, rfl, .failed f⟩
  | ask r next ih =>
      cases h with
      | @ask _ _ answer docs rest _ first further =>
          obtain ⟨caught, hresult, hgoes⟩ := ih answer further
          exact ⟨caught, hresult, .ask first hgoes⟩

/-- Each program of several, with the documents it has written and what it came
to. -/
abbrev Parts (w : World) (moments : Timestamp → Prop)
    (programs : List (Program α))
    (parts : List (List Fields × Except Failure α)) : Prop :=
  List.Forall₂ (fun p part => w.Goes moments p part.1 part.2) programs parts

/-- Programs one after another go each their way. -/
theorem of_mapM_attempt {programs : List (Program α)} {docs : List Fields}
    {result : Except Failure (List (Except Failure α))}
    (h : w.Goes moments (programs.mapM Program.attempt) docs result) :
    ∃ parts, Parts w moments programs parts ∧ result = .ok (parts.map (·.2)) ∧
      docs = parts.flatMap (·.1) := by
  induction programs generalizing docs result with
  | nil =>
      rw [List.mapM_nil] at h
      obtain ⟨rfl, rfl⟩ := of_pure h
      exact ⟨[], .nil, rfl, rfl⟩
  | cons p programs ih =>
      rw [List.mapM_cons] at h
      rcases of_bind h with ⟨f, hfailed, -⟩ |
        ⟨caught, front, back, rfl, hfirst, hrest⟩
      · obtain ⟨_, hcaught, -⟩ := of_attempt hfailed
        cases hcaught
      · obtain ⟨_, hcaught, hgoes⟩ := of_attempt hfirst
        obtain rfl := Except.ok.inj hcaught
        rcases of_bind hrest with ⟨f, hfailed, -⟩ |
          ⟨results, most, last, rfl, hmost, hlast⟩
        · obtain ⟨_, _, hok, _⟩ := ih hfailed
          cases hok
        · obtain ⟨parts, hparts, hok, rfl⟩ := ih hmost
          obtain rfl := Except.ok.inj hok
          obtain ⟨rfl, rfl⟩ := of_pure hlast
          exact ⟨(front, caught) :: parts, .cons hgoes hparts, rfl, by simp⟩

/-- Where one program of several has asked for something, the way it goes on
is the rest of its way. -/
theorem Parts.ask_at {before after : List (Program α)} {r : Request}
    {next : Except Failure r.Answer → Program α}
    {answer : Except Failure r.Answer} {docs : List Fields}
    {parts : List (List Fields × Except Failure α)}
    (first : w.Answers moments r answer docs)
    (h : Parts w moments (before ++ next answer :: after) parts) :
    ∃ whole, Parts w moments (before ++ .ask r next :: after) whole ∧
      whole.map (·.2) = parts.map (·.2) ∧
      (docs ++ parts.flatMap (·.1)).Perm (whole.flatMap (·.1)) := by
  -- the lemmas of the library take the right list apart, so the
  -- relation is turned round
  have hfront := List.forall₂_take_append _ _ _ h.flip
  obtain ⟨part, back, hpart, hback, hdrop⟩ :=
    List.forall₂_cons_right_iff.mp (List.forall₂_drop_append _ _ _ h.flip)
  have hsplit : parts = parts.take before.length ++ part :: back := by
    rw [← hdrop, List.take_append_drop]
  generalize parts.take before.length = front at hfront hsplit
  refine ⟨front ++ (docs ++ part.1, part.2) :: back, ?_, by simp [hsplit], ?_⟩
  · exact List.rel_append hfront.flip (.cons (.ask first hpart) hback.flip)
  · simp only [hsplit, List.flatMap_append, List.flatMap_cons,
      List.append_assoc]
    exact List.perm_append_comm_assoc ..

/-- **Programs in turns.**  Programs that go on in turns go each a way of its
own.  They come to what each of them comes to, and the documents they write are
those that each of them writes. -/
theorem of_weave {picks : List Nat} {programs : List (Program α)}
    {docs : List Fields} {result : Except Failure (List (Except Failure α))}
    (h : w.Goes moments (Program.weave picks programs) docs result) :
    ∃ parts, Parts w moments programs parts ∧ result = .ok (parts.map (·.2)) ∧
      docs.Perm (parts.flatMap (·.1)) := by
  induction picks generalizing programs docs with
  | nil =>
      obtain ⟨parts, hparts, hresult, rfl⟩ := of_mapM_attempt h
      exact ⟨parts, hparts, hresult, .refl _⟩
  | cons pick picks ih =>
      unfold Program.weave at h
      split at h
      · next r next hpicked =>
        obtain ⟨hlt, hget⟩ := List.getElem?_eq_some_iff.mp hpicked
        cases h with
        | @ask _ _ answer front rest _ first further =>
            -- the others have not moved, so what was written comes in front of
            -- the way of this program
            obtain ⟨parts, hparts, hresult, hperm⟩ := ih further
            obtain ⟨before, after, hsplit, -, hset⟩ :=
              @List.exists_of_set _ pick (next answer) programs hlt
            rw [hset] at hparts
            obtain ⟨whole, hwhole, hresults, hdocs⟩ := Parts.ask_at first hparts
            rw [hsplit, hget]
            exact ⟨whole, hwhole, by
              rw [hresult, hresults], (hperm.append_left front).trans hdocs⟩
      · exact ih h

/-- Two programs that go on in turns go each a way of its own. -/
theorem of_weave_pair {picks : List Nat} {p q : Program α} {docs : List Fields}
    {result : Except Failure (List (Except Failure α))}
    (h : w.Goes moments (Program.weave picks [p, q]) docs result) :
    ∃ docsp docsq a b, result = .ok [a, b] ∧ docs.Perm (docsp ++ docsq) ∧
      w.Goes moments p docsp a ∧ w.Goes moments q docsq b := by
  obtain ⟨parts, hparts, rfl, hperm⟩ := h.of_weave
  cases hparts with
  | cons hp hparts =>
      cases hparts with
      | cons hq hparts =>
          cases hparts
          exact ⟨_, _, _, _, rfl, by simpa using hperm, hp, hq⟩

end Goes

end World

end Notices
