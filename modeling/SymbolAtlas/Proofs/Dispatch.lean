import Mathlib.Logic.Function.Basic
import Mathlib.Logic.Relation
import SymbolAtlas.Scheduler

/-!
# A scheduler shared by a timer and its callers

A scheduler does not run alone. Arrivals come at any moment; a timer reads the deadline, sleeps and
takes what is due; and any number of calls take what waits, to hand it to the index as a flush does
or to apply it with work of their own. Whoever takes a batch holds a lock from before taking it
until after applying it, and arrivals do not wait for that lock.

`Dispatch.Step` is one step of any of them, so a run is any interleaving. The deadline that the
timer has read may be out of date when it enters, which is why it looks at the clock again, and it
may be woken at any time before. Stopping the timer does not interrupt it while it holds the lock.

This module has the model and the part of the invariant that is about the lock. `Dispatch.Locked`
says that those between entering and leaving are those who hold the lock, so there is at most one,
and `Dispatch.Logged` says that all batches taken were applied in that order, except the one that is
being applied.

## Main results

* `Dispatch.Locked.step`: one step keeps the lock.
* `Dispatch.Locked.inFlight?_eq_some_iff`: at most one batch is being applied.
* `Dispatch.Logged.step`: one step keeps the log.
-/

namespace SymbolAtlas

/-! ### Arrivals -/

/-- New texts and deletions that arrive together. -/
structure Arrival where
  files : List FileEntry
  deleted : List Uri

/-- An arrival of nothing, which the scheduler does not take in. -/
def Arrival.isEmpty (a : Arrival) : Bool := a.files.isEmpty && a.deleted.isEmpty

/-! ### The model -/

/-- The batch that waits. -/
def Scheduler.waiting? (s : Scheduler) : Option Batch := s.collector.waiting.map (·.batch)

/-- Who takes what waits and applies it. -/
inductive Applier where
  /-- The timer, for the index. -/
  | timer
  /-- A call that flushes what waits to the index. -/
  | flush (call : Nat)
  /-- A call that takes what waits and applies it with its own work. -/
  | take (call : Nat)
  deriving DecidableEq

/-- How far someone is with it. -/
inductive Stage where
  /-- The timer is about to read the deadline; a call has not been made. -/
  | away
  /-- The timer sleeps until a deadline. -/
  | asleep (deadline : Nat)
  /-- Waiting for the lock. -/
  | queued
  /-- Holding the lock, with nothing taken yet. -/
  | entered
  /-- Holding the lock and applying what was taken. -/
  | applying (b : Batch)
  /-- Holding the lock, with nothing left to apply. -/
  | done
  /-- A call has returned; the timer has stopped. -/
  | returned

/-- The stages in which the lock is held. -/
def Stage.inside : Stage → Bool
  | .entered | .applying _ | .done => true
  | .away | .asleep _ | .queued | .returned => false

/-- The batch that is being applied. -/
def Stage.batch? : Stage → Option Batch
  | .applying b => some b
  | _ => none

namespace Applier

/-- What someone takes from the scheduler: the timer what is due, a call whatever waits. -/
def takeFrom : Applier → Scheduler → Option Batch × Scheduler
  | .timer, s => s.settle
  | .flush _, s => s.take
  | .take _, s => s.take

/-- Where someone is after leaving: the timer goes on, a call returns. -/
def afterwards : Applier → Stage
  | .timer => .away
  | .flush _ => .returned
  | .take _ => .returned

end Applier

/-- The scheduler, the lock, and where everybody is, with what has happened so far. -/
structure Dispatch where
  scheduler : Scheduler
  holder : Option Applier
  stage : Applier → Stage
  /-- The arrivals that the scheduler has taken in, oldest first. -/
  accepted : List Arrival
  /-- The batches in the order in which they were taken, and who took them. -/
  taken : List (Applier × Batch)
  /-- The batches in the order in which their application was finished. -/
  applied : List (Applier × Batch)

namespace Dispatch

/-- Nothing has happened. -/
def start (window : Nat) : Dispatch := ⟨.start window, none, fun _ => .away, [], [], []⟩

/-- Somebody moves to another stage. -/
def move (s : Dispatch) (a : Applier) (stage : Stage) : Dispatch :=
  { s with stage := Function.update s.stage a stage }

/-- The batch that waits. -/
def waiting? (s : Dispatch) : Option Batch := s.scheduler.waiting?

/-- The batch that whoever holds the lock is applying. -/
def inFlight? (s : Dispatch) : Option (Applier × Batch) :=
  s.holder.bind fun a => (s.stage a).batch?.map (a, ·)

/-- One step of an arrival, of the clock, of the timer or of a call. -/
inductive Step : Dispatch → Dispatch → Prop
  | arrive (s : Dispatch) (a : Arrival) :
      Step s { s with
        scheduler := s.scheduler.schedule a.files a.deleted
        accepted := s.accepted ++ if a.isEmpty then [] else [a] }
  | pass (s : Dispatch) (ms : Nat) : Step s { s with scheduler := s.scheduler.pass ms }
  | read {s : Dispatch} {deadline : Nat} : s.stage .timer = .away →
      s.scheduler.collector.deadline? = some deadline → Step s (s.move .timer (.asleep deadline))
  | wake {s : Dispatch} {deadline : Nat} : s.stage .timer = .asleep deadline →
      Step s (s.move .timer .away)
  | due {s : Dispatch} {deadline : Nat} : s.stage .timer = .asleep deadline →
      deadline ≤ s.scheduler.now → Step s (s.move .timer .queued)
  | call {s : Dispatch} (a : Applier) : a ≠ .timer → s.stage a = .away →
      Step s (s.move a .queued)
  | enter {s : Dispatch} (a : Applier) : s.stage a = .queued → s.holder = none →
      Step s { s with stage := Function.update s.stage a .entered, holder := some a }
  | miss {s : Dispatch} (a : Applier) {rest : Scheduler} : s.stage a = .entered →
      a.takeFrom s.scheduler = (none, rest) →
      Step s { s with stage := Function.update s.stage a .done, scheduler := rest }
  | take {s : Dispatch} (a : Applier) {b : Batch} {rest : Scheduler} : s.stage a = .entered →
      a.takeFrom s.scheduler = (some b, rest) →
      Step s { s with
        stage := Function.update s.stage a (.applying b)
        scheduler := rest
        taken := s.taken ++ [(a, b)] }
  | finish {s : Dispatch} (a : Applier) {b : Batch} : s.stage a = .applying b →
      Step s { s with
        stage := Function.update s.stage a .done
        applied := s.applied ++ [(a, b)] }
  | leave {s : Dispatch} (a : Applier) : s.stage a = .done →
      Step s { s with stage := Function.update s.stage a a.afterwards, holder := none }
  | stop {s : Dispatch} : (s.stage .timer).inside = false →
      Step s { s with
        stage := Function.update s.stage .timer .returned
        scheduler := s.scheduler.stop }

/-- Any number of steps, in any interleaving. -/
def Steps : Dispatch → Dispatch → Prop := Relation.ReflTransGen Step

variable {s s' : Dispatch}

/-! ### The lock -/

/-- Those between entering and leaving are those who hold the lock. -/
def Locked (s : Dispatch) : Prop := ∀ a, (s.stage a).inside = true ↔ s.holder = some a

theorem locked_start (window : Nat) : (start window).Locked := by
  intro a
  constructor <;> intro h <;> cases h

/-- Somebody moves, and the lock says the same as the new stage, and of the others the same as
before. -/
theorem Locked.of_update (h : s.Locked) {a : Applier} {stage : Stage}
    (hstage : s'.stage = Function.update s.stage a stage)
    (hself : stage.inside = true ↔ s'.holder = some a)
    (hothers : ∀ c ≠ a, s.holder = some c ↔ s'.holder = some c) : s'.Locked := by
  intro c
  rw [hstage]
  by_cases hc : c = a
  · subst hc
    rw [Function.update_self]
    exact hself
  · rw [Function.update_of_ne hc, h c]
    exact hothers c hc

/-- Somebody moves without entering or leaving. -/
theorem Locked.stay (h : s.Locked) {a : Applier} {stage stage' : Stage} (hstage : s.stage a = stage)
    (hstage' : s'.stage = Function.update s.stage a stage') (hholder : s'.holder = s.holder)
    (hinside : stage.inside = stage'.inside) : s'.Locked := by
  refine h.of_update hstage' ?_ fun c _ => by rw [hholder]
  rw [hholder, ← h a, hstage, hinside]

/-- **One step keeps the lock.** -/
theorem Locked.step (h : s.Locked) (hstep : Step s s') : s'.Locked := by
  cases hstep with
  | arrive a => exact h
  | pass ms => exact h
  | read haway hdeadline => exact h.stay haway rfl rfl rfl
  | wake hasleep => exact h.stay hasleep rfl rfl rfl
  | due hasleep hnow => exact h.stay hasleep rfl rfl rfl
  | call a htimer haway => exact h.stay haway rfl rfl rfl
  | enter a hqueued hfree =>
      refine h.of_update rfl (by simp [Stage.inside]) fun c hc => ?_
      simp [hfree, hc.symm]
  | miss a hentered htake => exact h.stay hentered rfl rfl rfl
  | take a hentered htake => exact h.stay hentered rfl rfl rfl
  | finish a happlying => exact h.stay happlying rfl rfl rfl
  | leave a hdone =>
      have hholder : s.holder = some a := (h a).mp (by rw [hdone]; rfl)
      refine h.of_update rfl (by cases a <;> simp [Applier.afterwards, Stage.inside]) fun c hc => ?_
      simp [hholder, hc.symm]
  | stop houtside => exact h.stay rfl rfl rfl houtside

/-! ### The log -/

/-- All batches taken were applied in that order, except the one that is being applied. -/
def Logged (s : Dispatch) : Prop := s.taken = s.applied ++ s.inFlight?.toList

/-- What is in flight is what the holder of the lock is applying. -/
theorem inFlight?_of_holder {a : Applier} (h : s.holder = some a) :
    s.inFlight? = (s.stage a).batch?.map (a, ·) := by
  rw [inFlight?, h, Option.bind_some]

theorem inFlight?_of_free (h : s.holder = none) : s.inFlight? = none := by
  rw [inFlight?, h, Option.bind_none]

/-- Whoever is inside holds the lock. -/
theorem Locked.inFlight?_of_inside (h : s.Locked) {a : Applier} {stage : Stage}
    (hstage : s.stage a = stage) (hinside : stage.inside = true) :
    s.inFlight? = stage.batch?.map (a, ·) := by
  have hholder : s.holder = some a := (h a).mp (by rw [hstage, hinside])
  rw [inFlight?_of_holder hholder, hstage]

/-- What is in flight is what somebody is applying. -/
theorem Locked.inFlight?_eq_some_iff (h : s.Locked) {a : Applier} {b : Batch} :
    s.inFlight? = some (a, b) ↔ s.stage a = .applying b := by
  constructor
  · intro hflight
    obtain ⟨c, -, hc⟩ := Option.bind_eq_some_iff.mp hflight
    obtain ⟨b', hb', heq⟩ := Option.map_eq_some_iff.mp hc
    cases heq
    cases hstage : s.stage a with
    | applying b =>
        rw [hstage] at hb'
        exact congrArg Stage.applying (Option.some.inj hb')
    | _ =>
        rw [hstage] at hb'
        cases hb'
  · intro hstage
    exact h.inFlight?_of_inside hstage rfl

/-- Somebody outside moves: nothing changes about what is in flight. -/
theorem Locked.inFlight?_of_outside (h : s.Locked) {a : Applier} {stage stage' : Stage}
    (hstage : s.stage a = stage) (houtside : stage.inside = false)
    (hstage' : s'.stage = Function.update s.stage a stage') (hholder : s'.holder = s.holder) :
    s'.inFlight? = s.inFlight? := by
  have hne : s.holder ≠ some a := by
    rw [Ne, ← h a, hstage, houtside]
    exact Bool.false_ne_true
  rw [inFlight?, inFlight?, hholder, hstage']
  cases hc : s.holder with
  | none => rfl
  | some c =>
      have hca : c ≠ a := fun hca => hne (hca ▸ hc)
      rw [Option.bind_some, Option.bind_some, Function.update_of_ne hca]

/-- **One step keeps the log.** -/
theorem Logged.step (h : s.Logged) (hlock : s.Locked) (hstep : Step s s') : s'.Logged := by
  have hlock' := hlock.step hstep
  have houtside {a : Applier} {stage stage' : Stage} (hstage : s.stage a = stage)
      (houtside : stage.inside = false) : (s.move a stage').Logged := by
    have hsame : (s.move a stage').inFlight? = s.inFlight? :=
      hlock.inFlight?_of_outside hstage houtside rfl rfl
    rw [Logged, hsame]
    exact h
  rw [Logged] at h
  cases hstep with
  | arrive a => exact h
  | pass ms => exact h
  | read haway hdeadline => exact houtside haway rfl
  | wake hasleep => exact houtside hasleep rfl
  | due hasleep hnow => exact houtside hasleep rfl
  | call a htimer haway => exact houtside haway rfl
  | stop hout => exact houtside rfl hout
  | enter a hqueued hfree =>
      rw [inFlight?_of_free hfree] at h
      rw [Logged, hlock'.inFlight?_of_inside (Function.update_self a _ _) rfl]
      exact h
  | miss a hentered htake =>
      rw [hlock.inFlight?_of_inside hentered rfl] at h
      rw [Logged, hlock'.inFlight?_of_inside (Function.update_self a _ _) rfl]
      exact h
  | take a hentered htake =>
      rw [hlock.inFlight?_of_inside hentered rfl] at h
      rw [Logged, hlock'.inFlight?_of_inside (Function.update_self a _ _) rfl, h]
      simp [Stage.batch?]
  | finish a happlying =>
      rw [hlock.inFlight?_of_inside happlying rfl] at h
      rw [Logged, hlock'.inFlight?_of_inside (Function.update_self a _ _) rfl, h]
      simp [Stage.batch?]
  | leave a hdone =>
      rw [hlock.inFlight?_of_inside hdone rfl] at h
      rw [Logged, inFlight?_of_free rfl]
      exact h

end Dispatch

end SymbolAtlas
