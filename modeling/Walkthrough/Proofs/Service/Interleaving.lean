import Mathlib.Algebra.BigOperators.Group.Finset.Basic
import Mathlib.Algebra.Order.BigOperators.Group.Finset
import Mathlib.Data.Fintype.EquivFin
import Walkthrough.Proofs.Service.Session
import Walkthrough.Service.Server

/-! # Connections do not disturb each other

A connection that has gone part of the way is bound to what it would send alone: what it has
written, followed by what it still has ahead of it, is the output of its whole stream.  No step of
any connection changes this, so it holds of all connections in every run, whatever its schedule.

* `Connection.whole` is all that a connection comes to; `Connection.whole_of_step?` says that a
  step leaves it as it is, and `Server.Run.whole` that a run does.
* `Server.Run.isStopping_of_stopped`: only a connection that was asked for a shutdown stops a
  server.
* `Server.exists_run_to_rest`: the connections of a server come to rest, since each step leaves
  less to do (`Connection.toDo_lt_of_step?`).
* `Server.connections_undisturbed` puts these together. -/

namespace Walkthrough

open Text

variable (s : Service) (files : Store)

/-! ### One connection -/

/-- What comes behind an answer: nothing if it was one to a request for a shutdown, or else what a
session makes of the rest of the stream. -/
def Service.behind (unread : List UInt8) : Bool → List UInt8 × SessionEnd
  | true => ([], .shutdown)
  | false => (s.output files unread, (s.session files unread).2)

namespace Connection

/-- What a connection by itself still writes, and how it ends. -/
def ahead (c : Connection) : List UInt8 × SessionEnd :=
  match c.stage with
  | .reading => s.behind files c.unread false
  | .answering r shutdown =>
    let rest := s.behind files c.unread shutdown
    (r.written ++ rest.1, rest.2)
  | .closing shutdown =>
    let rest := s.behind files c.unread shutdown
    (newlineByte :: rest.1, rest.2)
  | .ended how => ([], how)

/-- All that a connection by itself comes to: what it has written and will write, and its end. -/
def whole (c : Connection) : List UInt8 × SessionEnd :=
  (c.written ++ (c.ahead s files).1, (c.ahead s files).2)

/-- Has the connection read its stream to the end, or as far as it will, and answered it? -/
def IsDone (c : Connection) : Prop :=
  c.stage = .reading ∧ c.unread = [] ∨ ∃ how, c.stage = .ended how

theorem whole_opened (bytes : List UInt8) :
    (opened bytes).whole s files = (s.output files bytes, (s.session files bytes).2) := rfl

theorem behind_nil : s.behind files [] false = ([], .exhausted) := by
  unfold Service.behind Service.output
  rw [s.session_nil files]
  rfl

theorem behind_of_readLine? {unread line rest : List UInt8}
    (h : readLine? unread = some (line, rest)) (written : List UInt8) :
    s.behind files unread false =
      ahead s files ⟨rest, written, (s.line files line).stage⟩ := by
  unfold Service.behind Service.output
  rw [s.session_of_readLine? files h, ← s.line_eq_outcome files]
  cases s.line files line with
  | silent => rfl
  | answer r => rfl
  | farewell r => simp [LineOutcome.andThen, LineOutcome.stage, ahead, Service.behind]
  | broken => rfl

variable {s files} {c c' : Connection}

/-- A step only moves bytes from what is ahead to what is written. -/
theorem whole_of_step? (h : c.step? s files = some c') : c'.whole s files = c.whole s files := by
  obtain ⟨unread, written, stage⟩ := c
  cases stage with
  | reading =>
      unfold step? at h
      cases hr : readLine? unread with
      | none =>
          simp only [hr] at h
          cases h
          have hnil := eq_nil_of_readLine?_eq_none hr
          subst hnil
          simp only [whole, ahead, behind_nil]
      | some p =>
          obtain ⟨line, rest⟩ := p
          simp only [hr] at h
          cases h
          have hahead := behind_of_readLine? s files hr written
          simp only [whole, ahead] at hahead ⊢
          rw [hahead]
  | answering r shutdown =>
      cases h
      simp [whole, ahead, Response.written]
  | closing shutdown =>
      cases h
      cases shutdown <;> simp [whole, ahead, Service.behind]
  | ended how => cases h

variable (s files) in
theorem written_prefix (c : Connection) : c.written <+: (c.whole s files).1 :=
  List.prefix_append _ _

variable (s files) in
theorem IsDone.written_eq (h : c.IsDone) : c.written = (c.whole s files).1 := by
  obtain ⟨unread, written, stage⟩ := c
  rcases h with ⟨hs, hu⟩ | ⟨how, hs⟩
  · simp only at hs hu
    subst hs hu
    simp [whole, ahead, behind_nil]
  · simp only at hs
    subst hs
    simp [whole, ahead]

theorem exists_ended_of_step?_eq_none (h : c.step? s files = none) :
    ∃ how, c.stage = .ended how := by
  unfold step? at h
  split at h
  · split at h <;> cases h
  · cases h
  · cases h
  · exact ⟨_, ‹_›⟩

theorem isStopping_iff : c.isStopping = true ↔ c.stage = .ended .shutdown := by
  unfold isStopping
  split
  · simp [*]
  · simpa using ‹_›

variable (s files) in
theorem whole_of_isStopping (h : c.isStopping = true) : (c.whole s files).2 = .shutdown := by
  have hs := isStopping_iff.mp h
  simp [whole, ahead, hs]

/-- How many more steps a connection takes at most. -/
def toDo (c : Connection) : Nat :=
  3 * c.unread.length +
    match c.stage with
    | .reading => 1
    | .answering _ _ => 3
    | .closing _ => 2
    | .ended _ => 0

theorem toDo_lt_of_step? (h : c.step? s files = some c') : c'.toDo < c.toDo := by
  obtain ⟨unread, written, stage⟩ := c
  cases stage with
  | reading =>
      unfold step? at h
      cases hr : readLine? unread with
      | none =>
          simp only [hr] at h
          cases h
          simp [toDo]
      | some p =>
          obtain ⟨line, rest⟩ := p
          simp only [hr] at h
          cases h
          have hlt := length_lt_of_readLine? hr
          cases s.line files line <;> simp only [toDo, LineOutcome.stage] <;> omega
  | answering r shutdown =>
      cases h
      simp [toDo]
  | closing shutdown =>
      cases h
      cases shutdown <;> simp [toDo]
  | ended how => cases h

end Connection

/-! ### All connections -/

namespace Server

variable {ι : Type} [DecidableEq ι] {s files} {σ σ' : Server ι} {i : ι} {schedule : List ι}

@[simp] theorem connections_update_self (σ : Server ι) (i : ι) (c : Connection) :
    (σ.update i c).connections i = c := by
  simp [update]

theorem connections_update_of_ne (σ : Server ι) {i j : ι} (c : Connection) (h : j ≠ i) :
    (σ.update i c).connections j = σ.connections j := by
  simp [update, h]

/-- A server that goes on has not stopped; it moves one connection by a step of its own, or it is
stopped by one that was asked for that. -/
theorem step?_cases (h : σ.step? s files i = some σ') :
    σ.stopped = false ∧
      ((∃ c, (σ.connections i).step? s files = some c ∧ σ' = σ.update i c) ∨
        (σ.connections i).isStopping = true ∧ σ' = { σ with stopped := true }) := by
  unfold step? at h
  split at h
  · cases h
  · rename_i hrun
    refine ⟨by simpa using hrun, ?_⟩
    split at h
    · rename_i c hc
      exact .inl ⟨c, hc, (Option.some.inj h).symm⟩
    · split at h
      · rename_i hstop
        exact .inr ⟨hstop, (Option.some.inj h).symm⟩
      · cases h

/-- A step of a server leaves it what each connection comes to, be it its own step or another's. -/
theorem whole_of_step? (h : σ.step? s files i = some σ') (j : ι) :
    (σ'.connections j).whole s files = (σ.connections j).whole s files := by
  obtain ⟨-, ⟨c, hc, rfl⟩ | ⟨-, rfl⟩⟩ := step?_cases h
  · by_cases hj : j = i
    · subst hj
      rw [connections_update_self]
      exact Connection.whole_of_step? hc
    · rw [connections_update_of_ne _ _ hj]
  · rfl

/-- **No run changes what a connection comes to.** -/
theorem Run.whole (h : Run s files σ schedule σ') (j : ι) :
    (σ'.connections j).whole s files = (σ.connections j).whole s files := by
  induction h with
  | refl => rfl
  | step hstep _ ih => rw [ih, whole_of_step? hstep j]

theorem isStopping_of_step? (h : σ.step? s files i = some σ') {j : ι}
    (hj : (σ.connections j).isStopping = true) : (σ'.connections j).isStopping = true := by
  obtain ⟨-, ⟨c, hc, rfl⟩ | ⟨-, rfl⟩⟩ := step?_cases h
  · by_cases hji : j = i
    · subst hji
      rw [Connection.step?, Connection.isStopping_iff.mp hj] at hc
      cases hc
    · rwa [connections_update_of_ne _ _ hji]
  · exact hj

theorem Run.isStopping (h : Run s files σ schedule σ') {j : ι}
    (hj : (σ.connections j).isStopping = true) : (σ'.connections j).isStopping = true := by
  induction h with
  | refl => exact hj
  | step hstep _ ih => exact ih (isStopping_of_step? hstep hj)

/-- A server that has stopped on the way was stopped by one of its connections. -/
theorem Run.isStopping_of_stopped (h : Run s files σ schedule σ') (hgo : σ.stopped = false)
    (hstop : σ'.stopped = true) : ∃ j, (σ'.connections j).isStopping = true := by
  induction h with
  | refl => rw [hgo] at hstop; cases hstop
  | step hstep hrest ih =>
      obtain ⟨-, ⟨c, -, rfl⟩ | ⟨hj, rfl⟩⟩ := step?_cases hstep
      · exact ih hgo hstop
      · exact ⟨_, hrest.isStopping hj⟩

theorem Run.trans {σ'' : Server ι} {schedule' : List ι} (h : Run s files σ schedule σ')
    (h' : Run s files σ' schedule' σ'') : Run s files σ (schedule ++ schedule') σ'' := by
  induction h with
  | refl => exact h'
  | step hstep _ ih => exact .step hstep (ih h')

theorem exists_ended_of_step?_eq_none (h : σ.step? s files i = none) :
    σ.stopped = true ∨ ∃ how, (σ.connections i).stage = .ended how := by
  unfold step? at h
  split at h
  · exact .inl ‹_›
  · split at h
    · cases h
    · exact .inr (Connection.exists_ended_of_step?_eq_none ‹_›)

/-- How many more steps a server takes at most. -/
def toDo [Fintype ι] (σ : Server ι) : Nat :=
  (∑ i, (σ.connections i).toDo) + if σ.stopped then 0 else 1

theorem toDo_lt_of_step? [Fintype ι] (h : σ.step? s files i = some σ') : σ'.toDo < σ.toDo := by
  obtain ⟨hgo, ⟨c, hc, rfl⟩ | ⟨-, rfl⟩⟩ := step?_cases h
  · have hlt : ∑ j, ((σ.update i c).connections j).toDo < ∑ j, (σ.connections j).toDo := by
      apply Finset.sum_lt_sum
      · intro j _
        by_cases hj : j = i
        · subst hj
          rw [connections_update_self]
          exact (Connection.toDo_lt_of_step? hc).le
        · rw [connections_update_of_ne _ _ hj]
      · refine ⟨i, Finset.mem_univ i, ?_⟩
        rw [connections_update_self]
        exact Connection.toDo_lt_of_step? hc
    exact Nat.add_lt_add_right hlt _
  · simp [toDo, hgo]

/-- **A server comes to rest**: every run goes on until no connection can. -/
theorem exists_run_to_rest [Fintype ι] (s : Service) (files : Store) (σ : Server ι) :
    ∃ schedule σ', Run s files σ schedule σ' ∧ ∀ i, σ'.step? s files i = none := by
  induction hn : σ.toDo using Nat.strongRecOn generalizing σ with
  | ind n ih =>
      subst hn
      by_cases hrest : ∀ i, σ.step? s files i = none
      · exact ⟨[], σ, .refl σ, hrest⟩
      · push Not at hrest
        obtain ⟨i, hi⟩ := hrest
        obtain ⟨σ₁, hstep⟩ := Option.ne_none_iff_exists'.mp hi
        obtain ⟨schedule, σ', hrun, hend⟩ := ih σ₁.toDo (toDo_lt_of_step? hstep) σ₁ rfl
        exact ⟨i :: schedule, σ', .step hstep hrun, hend⟩

theorem Run.whole_opened {streams : ι → List UInt8}
    (h : Run s files (.opened streams) schedule σ) (i : ι) :
    (σ.connections i).whole s files =
      (s.output files (streams i), (s.session files (streams i)).2) :=
  (h.whole i).trans (Connection.whole_opened s files (streams i))

theorem Run.stopped_eq_false {streams : ι → List UInt8}
    (h : Run s files (.opened streams) schedule σ)
    (hgo : ∀ i, (s.session files (streams i)).2 ≠ .shutdown) : σ.stopped = false := by
  by_contra hstop
  rw [Bool.not_eq_false] at hstop
  obtain ⟨i, hi⟩ := h.isStopping_of_stopped rfl hstop
  apply hgo i
  rw [← Connection.whole_of_isStopping s files hi, h.whole_opened i]

/-- **Connections do not disturb each other.**  In every run, with any number of connections and
whatever its schedule, what is written to each is a beginning of what a session sends over its
stream.  If no stream comes to a request for a shutdown, a run in which all connections are done
has written exactly this to each, and every run of finitely many connections goes on to such a one.
What a session sends is what a connection gets that is the only one: it comes to where it cannot go
on, and it has been sent exactly this then. -/
theorem connections_undisturbed (s : Service) (files : Store) (streams : ι → List UInt8) :
    (∀ schedule σ, Run s files (.opened streams) schedule σ →
      ∀ i, (σ.connections i).written <+: s.output files (streams i)) ∧
    ((∀ i, (s.session files (streams i)).2 ≠ .shutdown) →
      ∀ schedule σ, Run s files (.opened streams) schedule σ →
        ((∀ i, (σ.connections i).IsDone) →
          ∀ i, (σ.connections i).written = s.output files (streams i)) ∧
        (Finite ι → ∃ schedule' σ', Run s files σ schedule' σ' ∧
          ∀ i, (σ'.connections i).IsDone)) ∧
    ∀ bytes : List UInt8,
      (∃ schedule, ∃ σ : Server Unit, Run s files (.opened fun _ => bytes) schedule σ ∧
        σ.step? s files () = none) ∧
      ∀ schedule (σ : Server Unit), Run s files (.opened fun _ => bytes) schedule σ →
        σ.step? s files () = none → (σ.connections ()).written = s.output files bytes := by
  refine ⟨?_, ?_, fun bytes => ⟨?_, ?_⟩⟩
  · intro schedule σ h i
    have hp := Connection.written_prefix s files (σ.connections i)
    rwa [h.whole_opened i] at hp
  · intro hgo schedule σ h
    constructor
    · intro hdone i
      rw [(hdone i).written_eq s files, h.whole_opened i]
    · intro hfinite
      have := Fintype.ofFinite ι
      obtain ⟨schedule', σ', h', hrest⟩ := exists_run_to_rest s files σ
      refine ⟨schedule', σ', h', fun i => .inr ?_⟩
      have hon : σ'.stopped = false := (h.trans h').stopped_eq_false hgo
      exact (exists_ended_of_step?_eq_none (hrest i)).resolve_left (by simp [hon])
  · obtain ⟨schedule, σ, h, hrest⟩ := exists_run_to_rest s files (.opened fun _ : Unit => bytes)
    exact ⟨schedule, σ, h, hrest ()⟩
  · intro schedule σ h hrest
    have hdone : (σ.connections ()).IsDone := by
      rcases exists_ended_of_step?_eq_none hrest with hstop | hended
      · obtain ⟨_, hi⟩ := h.isStopping_of_stopped rfl hstop
        exact .inr ⟨_, Connection.isStopping_iff.mp hi⟩
      · exact .inr hended
    rw [hdone.written_eq s files, h.whole_opened ()]

end Server

end Walkthrough
