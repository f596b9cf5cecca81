import Mathlib.Data.List.Induction
import Mathlib.Data.Nat.Basic
import SymbolAtlas.Proofs.DispatchOrder

/-!
# A dispatch on a clock

This module puts a dispatch on a clock, with a timer and arrivals and nobody else who takes what
waits. The timer sleeps until a deadline that it has read. Every arrival moves the deadline and
notifies the timer, which may hear of it at once, later, or not before the deadline it sleeps for.
When it wakes it looks at the clock again, so a deadline that has moved costs it a turn and nothing
else. The clock waits for the timer: it moves while the timer sleeps, up to the deadline it sleeps
for, or while there is no deadline to read, and it stands while the timer is at work.

None of this keeps the clock from moving. By itself the timer comes to rest, which
`TimedDispatch.work` measures, and a timer at rest lets the clock move on.

## Main results

* `TimedDispatch.Step.dispatch`: a dispatch on a clock is a dispatch.
* `TimedDispatch.TimerStep.work_lt`, `TimedDispatch.Alone.acc`: the timer comes to rest.
* `TimedDispatch.AtRest.timer_cases`, `TimedDispatch.AtRest.applied`: what holds then.
* `TimedDispatch.Steps.exists_later`, `TimedDispatch.exists_run`: the clock can be moved to any
  time, and any arrivals can come.
-/

namespace SymbolAtlas

/-! ### The clock and the timer -/

/-- A dispatch on a clock, with what has happened at which time. -/
structure TimedDispatch where
  dispatch : Dispatch
  /-- The timer was notified and has not heard of it yet. -/
  notified : Bool
  /-- The arrivals so far. -/
  arrived : List (Nat × Arrival)
  /-- The batches that the timer has handed over so far. -/
  handed : List (Nat × Batch)

namespace TimedDispatch

/-- Nothing has happened. -/
def start (window : Nat) : TimedDispatch := ⟨.start window, false, [], []⟩

/-- The time. -/
def now (s : TimedDispatch) : Nat := s.dispatch.scheduler.now

/-- Where the timer is. -/
def timer (s : TimedDispatch) : Stage := s.dispatch.stage .timer

/-- The deadline of what waits. -/
def deadline? (s : TimedDispatch) : Option Nat := s.dispatch.scheduler.collector.deadline?

/-- The timer moves to another stage. -/
def move (s : TimedDispatch) (stage : Stage) : TimedDispatch :=
  { s with dispatch := s.dispatch.move .timer stage }

/-- An arrival is taken in, and the timer notified. -/
def accept (s : TimedDispatch) (a : Arrival) : TimedDispatch :=
  { s with
    dispatch := { s.dispatch with
      scheduler := s.dispatch.scheduler.schedule a.files a.deleted
      accepted := s.dispatch.accepted ++ if a.isEmpty then [] else [a] }
    notified := true
    arrived := s.arrived ++ [(s.now, a)] }

/-- Time passes. -/
def pass (s : TimedDispatch) (ms : Nat) : TimedDispatch :=
  { s with dispatch := { s.dispatch with scheduler := s.dispatch.scheduler.pass ms } }

/-- One step of the timer. -/
inductive TimerStep : TimedDispatch → TimedDispatch → Prop
  | read {s : TimedDispatch} {deadline : Nat} : s.timer = .away → s.deadline? = some deadline →
      TimerStep s (s.move (.asleep deadline))
  | hear {s : TimedDispatch} : s.timer = .away → s.deadline? = none → s.notified = true →
      TimerStep s { s with notified := false }
  | wake {s : TimedDispatch} {deadline : Nat} : s.timer = .asleep deadline → s.notified = true →
      TimerStep s { s.move .away with notified := false }
  | due {s : TimedDispatch} {deadline : Nat} : s.timer = .asleep deadline → deadline ≤ s.now →
      TimerStep s (s.move .queued)
  | enter {s : TimedDispatch} : s.timer = .queued → s.dispatch.holder = none →
      TimerStep s { s with dispatch := { s.dispatch with
        stage := Function.update s.dispatch.stage .timer .entered
        holder := some .timer } }
  | miss {s : TimedDispatch} {rest : Scheduler} : s.timer = .entered →
      s.dispatch.scheduler.settle = (none, rest) →
      TimerStep s { s with dispatch := { s.dispatch with
        stage := Function.update s.dispatch.stage .timer .done
        scheduler := rest } }
  | take {s : TimedDispatch} {b : Batch} {rest : Scheduler} : s.timer = .entered →
      s.dispatch.scheduler.settle = (some b, rest) →
      TimerStep s { s with
        dispatch := { s.dispatch with
          stage := Function.update s.dispatch.stage .timer (.applying b)
          scheduler := rest
          taken := s.dispatch.taken ++ [(.timer, b)] }
        handed := s.handed ++ [(s.now, b)] }
  | finish {s : TimedDispatch} {b : Batch} : s.timer = .applying b →
      TimerStep s { s with dispatch := { s.dispatch with
        stage := Function.update s.dispatch.stage .timer .done
        applied := s.dispatch.applied ++ [(.timer, b)] } }
  | leave {s : TimedDispatch} : s.timer = .done →
      TimerStep s { s with dispatch := { s.dispatch with
        stage := Function.update s.dispatch.stage .timer .away
        holder := none } }

/-- The clock may move on: nothing waits, or the timer sleeps for a deadline that is not passed. -/
def MayPass (s : TimedDispatch) (ms : Nat) : Prop :=
  s.timer = .away ∧ s.deadline? = none ∨
    ∃ deadline, s.timer = .asleep deadline ∧ s.now + ms ≤ deadline

/-- One step of an arrival, of the clock or of the timer. -/
inductive Step : TimedDispatch → TimedDispatch → Prop
  | arrive (s : TimedDispatch) (a : Arrival) : a.isEmpty = false → Step s (s.accept a)
  | pass {s : TimedDispatch} (ms : Nat) : s.MayPass ms → Step s (s.pass ms)
  | timer {s s' : TimedDispatch} : TimerStep s s' → Step s s'

/-- Any number of steps, in any interleaving. -/
def Steps : TimedDispatch → TimedDispatch → Prop := Relation.ReflTransGen Step

/-- The timer has nothing to do. -/
def AtRest (s : TimedDispatch) : Prop := ∀ s', ¬TimerStep s s'

variable {s s' : TimedDispatch} {window : Nat}

/-- A step of the timer is one of the dispatch, or only hears a notification. -/
theorem TimerStep.dispatch (h : TimerStep s s') :
    Dispatch.Steps s.dispatch s'.dispatch := by
  cases h with
  | read haway hdeadline => exact .single (.read haway hdeadline)
  | hear haway hnone hnotified => exact .refl
  | wake hasleep hnotified => exact .single (.wake hasleep)
  | due hasleep hnow => exact .single (.due hasleep hnow)
  | enter hqueued hfree => exact .single (.enter .timer hqueued hfree)
  | miss hentered hsettle => exact .single (.miss .timer hentered hsettle)
  | take hentered hsettle => exact .single (.take .timer hentered hsettle)
  | finish happlying => exact .single (.finish .timer happlying)
  | leave hdone => exact .single (.leave .timer hdone)

/-- A dispatch on a clock is a dispatch. -/
theorem Step.dispatch (h : Step s s') : Dispatch.Steps s.dispatch s'.dispatch := by
  cases h with
  | arrive a ha => exact .single (.arrive _ a)
  | pass ms hidle => exact .single (.pass _ ms)
  | timer htimer => exact htimer.dispatch

/-! ### The timer by itself -/

/-- The dispatch of a scheduler that nobody but its timer uses. -/
structure Alone (window : Nat) (s : TimedDispatch) : Prop where
  window_eq : s.dispatch.scheduler.collector.window = window
  running : s.dispatch.scheduler.running = true
  others : ∀ a ≠ .timer, s.dispatch.stage a = .away
  works : s.timer ≠ .returned
  taken : s.dispatch.taken = s.handed.map fun h => (.timer, h.2)

theorem alone_start (window : Nat) : (start window).Alone window := by
  refine ⟨rfl, rfl, fun _ _ => rfl, ?_, rfl⟩
  simp [start, timer, Dispatch.start]

/-- The timer moves, and the scheduler stays as it is but for what waits. -/
theorem Alone.of_update (h : s.Alone window) {stage : Stage}
    (hwindow : s'.dispatch.scheduler.collector.window = s.dispatch.scheduler.collector.window)
    (hrunning : s'.dispatch.scheduler.running = s.dispatch.scheduler.running)
    (hstage : s'.dispatch.stage = Function.update s.dispatch.stage .timer stage)
    (hworks : stage ≠ .returned)
    (htaken : s'.dispatch.taken = s'.handed.map fun h => (.timer, h.2)) :
    s'.Alone window := by
  refine ⟨hwindow.trans h.window_eq, hrunning.trans h.running, fun a ha => ?_, ?_, htaken⟩
  · rw [hstage, Function.update_of_ne ha]
    exact h.others a ha
  · rw [timer, hstage, Function.update_self]
    exact hworks

theorem Alone.timerStep (h : s.Alone window) (hstep : TimerStep s s') : s'.Alone window := by
  cases hstep with
  | read haway hdeadline => exact h.of_update rfl rfl rfl nofun h.taken
  | hear haway hnone hnotified => exact ⟨h.window_eq, h.running, h.others, h.works, h.taken⟩
  | wake hasleep hnotified => exact h.of_update rfl rfl rfl nofun h.taken
  | due hasleep hnow => exact h.of_update rfl rfl rfl nofun h.taken
  | enter hqueued hfree => exact h.of_update rfl rfl rfl nofun h.taken
  | miss hentered hsettle =>
      obtain ⟨rfl, -⟩ := Scheduler.settle_eq_none hsettle
      exact h.of_update rfl rfl rfl nofun h.taken
  | take hentered hsettle =>
      obtain ⟨w, -, -, -, rfl⟩ := Scheduler.settle_eq_some hsettle
      exact h.of_update rfl rfl rfl nofun (by simp [h.taken])
  | finish happlying => exact h.of_update rfl rfl rfl nofun h.taken
  | leave hdone => exact h.of_update rfl rfl rfl nofun h.taken

theorem scheduler_accept (s : TimedDispatch) {a : Arrival} (ha : a.isEmpty = false) :
    (s.accept a).dispatch.scheduler = { s.dispatch.scheduler with
      collector := s.dispatch.scheduler.collector.arrive a.files a.deleted s.now } := by
  rw [Arrival.isEmpty] at ha
  rw [accept, Scheduler.schedule, ha]
  rfl

@[simp] theorem now_accept (s : TimedDispatch) (a : Arrival) : (s.accept a).now = s.now := by
  rw [now, accept, Scheduler.schedule]
  split <;> rfl

@[simp] theorem now_pass (s : TimedDispatch) (ms : Nat) : (s.pass ms).now = s.now + ms := rfl

@[simp] theorem timer_move (s : TimedDispatch) (stage : Stage) : (s.move stage).timer = stage := by
  simp [timer, move, Dispatch.move]

theorem Alone.step (h : s.Alone window) (hstep : Step s s') : s'.Alone window := by
  cases hstep with
  | arrive a ha =>
      have hscheduler := scheduler_accept s ha
      exact ⟨hscheduler ▸ h.window_eq, hscheduler ▸ h.running, h.others, h.works, h.taken⟩
  | pass ms hidle => exact ⟨h.window_eq, h.running, h.others, h.works, h.taken⟩
  | timer htimer => exact h.timerStep htimer

/-! ### Runs -/

theorem TimerStep.arrived (h : TimerStep s s') : s'.arrived = s.arrived := by cases h <;> rfl

/-- The timer takes no time. -/
theorem TimerStep.now (h : TimerStep s s') : s'.now = s.now := by
  have hsettle (c : Scheduler) : c.settle.2.now = c.now := by
    rw [Scheduler.settle]
    split <;> rfl
  cases h with
  | miss hentered hmiss => exact (congrArg (·.2.now) hmiss).symm.trans (hsettle _)
  | take hentered htake => exact (congrArg (·.2.now) htake).symm.trans (hsettle _)
  | _ => rfl

theorem Step.arrived_extends (h : Step s s') : s.arrived <+: s'.arrived := by
  cases h with
  | arrive a ha => exact List.prefix_append _ _
  | pass ms hmay => exact List.prefix_refl _
  | timer htimer => rw [htimer.arrived]

theorem Steps.alone (h : Steps (start window) s) : s.Alone window := by
  induction h with
  | refl => exact alone_start window
  | tail _ hstep ih => exact ih.step hstep

theorem Steps.dispatch (h : Steps s s') : Dispatch.Steps s.dispatch s'.dispatch := by
  induction h with
  | refl => exact .refl
  | tail _ hstep ih => exact ih.trans hstep.dispatch

/-! ### The timer comes to rest -/

/-- What a timer that is about to read the deadline may still do before it sleeps. -/
def errand (s : TimedDispatch) : Nat :=
  match s.deadline? with
  | none => 0
  | some deadline => if deadline ≤ s.now then 7 else 1

/-- What the timer may still do from its stage on, if the errand is what it does next. -/
def turns (errand now : Nat) : Stage → Nat
  | .away => errand
  | .asleep deadline => if deadline ≤ now then 5 else 0
  | .queued => 4
  | .entered => 3
  | .applying _ => 2 + errand
  | .done => 1 + errand
  | .returned => 0

/-- A bound on the steps that the timer takes by itself. A notification costs it one more turn. -/
def work (s : TimedDispatch) : Nat :=
  (if s.notified then 8 else 0) + turns s.errand s.now s.timer

theorem errand_le (s : TimedDispatch) : s.errand ≤ 7 := by
  rw [errand]
  split
  · omega
  · split <;> omega

/-- What waits and is not due is slept for. -/
theorem errand_le_one (h : ∀ w ∈ s.dispatch.scheduler.collector.waiting, s.now < w.deadline) :
    s.errand ≤ 1 := by
  rw [errand]
  split
  · omega
  next deadline hdeadline =>
    obtain ⟨w, hw, rfl⟩ := Option.map_eq_some_iff.mp hdeadline
    rw [if_neg (Nat.not_le.mpr (h w hw))]

/-- The timer moves on without hearing of anything. -/
theorem work_lt_of_turns (stage stage' : Stage) (hstage : s.timer = stage)
    (hstage' : s'.timer = stage') (hnotified : s'.notified = s.notified)
    (hturns : turns s'.errand s'.now stage' < turns s.errand s.now stage) :
    s'.work < s.work := by
  rw [work, work, hstage, hstage', hnotified]
  exact Nat.add_lt_add_left hturns _

/-- **Each step of the timer** leaves it less to do. -/
theorem TimerStep.work_lt (h : TimerStep s s') (halone : s.Alone window) : s'.work < s.work := by
  have hnow := h.now
  cases h with
  | read haway hdeadline =>
      refine work_lt_of_turns _ _ haway (timer_move s _) rfl ?_
      rw [turns, turns, errand, hdeadline, hnow]
      dsimp only
      split <;> omega
  | hear haway hnone hnotified =>
      rw [work, work, if_pos hnotified, if_neg Bool.false_ne_true]
      exact Nat.add_lt_add_right (by omega) _
  | wake hasleep hnotified =>
      have hleft := errand_le s
      rw [work, work, if_pos hnotified, if_neg Bool.false_ne_true]
      have hstage : turns s.errand s.now (s.move .away).timer = s.errand := by
        rw [timer_move, turns]
      change 0 + turns s.errand s.now (s.move .away).timer < _
      omega
  | due hasleep hdue =>
      refine work_lt_of_turns _ _ hasleep (timer_move s _) rfl ?_
      rw [turns, turns, if_pos hdue]
      omega
  | enter hqueued hfree =>
      exact work_lt_of_turns .queued .entered hqueued (by simp [timer]) rfl (Nat.lt_succ_self 3)
  | miss hentered hsettle =>
      obtain ⟨rfl, hearly⟩ := Scheduler.settle_eq_none hsettle
      have hleft := errand_le_one (hearly halone.running)
      refine work_lt_of_turns .entered .done hentered (by simp [timer]) rfl ?_
      change 1 + s.errand < 3
      omega
  | @take b _ hentered hsettle =>
      obtain ⟨w, -, -, -, rfl⟩ := Scheduler.settle_eq_some hsettle
      refine work_lt_of_turns .entered (.applying b) hentered (by simp [timer]) rfl ?_
      exact Nat.lt_succ_self 2
  | finish happlying =>
      refine work_lt_of_turns _ .done happlying (by simp [timer]) rfl ?_
      exact Nat.add_lt_add_right (Nat.lt_succ_self 1) _
  | leave hdone =>
      refine work_lt_of_turns .done .away hdone (by simp [timer]) rfl ?_
      exact Nat.lt_add_of_pos_left Nat.one_pos

/-- **The timer comes to rest**, whatever it does. -/
theorem Alone.acc (h : s.Alone window) : Acc (fun t' t => TimerStep t t') s := by
  induction hwork : s.work using Nat.strong_induction_on generalizing s with
  | _ work ih =>
      refine .intro s fun t ht => ?_
      exact ih t.work (hwork ▸ ht.work_lt h) (h.timerStep ht) rfl

/-- The clock stands while the timer comes to rest. -/
theorem Alone.exists_atRest (h : s.Alone window) :
    ∃ s', Steps s s' ∧ s'.arrived = s.arrived ∧ s'.now = s.now ∧ s'.AtRest := by
  induction h.acc with
  | intro s _ ih =>
      by_cases hrest : s.AtRest
      · exact ⟨s, .refl, rfl, rfl, hrest⟩
      · obtain ⟨t, ht⟩ := not_forall_not.mp hrest
        obtain ⟨s', hsteps, harrived, hnow, hrest'⟩ := ih t ht (h.timerStep ht)
        exact ⟨s', .head (.timer ht) hsteps, harrived.trans ht.arrived, hnow.trans ht.now, hrest'⟩

/-- A timer at rest has nothing to read, or sleeps for a deadline that has not come. -/
theorem AtRest.timer_cases (h : s.AtRest) (halone : s.Alone window) (hlocked : s.dispatch.Locked) :
    s.timer = .away ∧ s.deadline? = none ∨ ∃ deadline, s.timer = .asleep deadline ∧
      s.now < deadline := by
  cases hstage : s.timer with
  | away =>
      cases hdeadline : s.deadline? with
      | none => exact .inl ⟨rfl, rfl⟩
      | some deadline => exact absurd (.read hstage hdeadline) (h _)
  | asleep deadline =>
      refine .inr ⟨deadline, rfl, Nat.lt_of_not_le fun hdue => ?_⟩
      exact h _ (.due hstage hdue)
  | queued =>
      -- nobody else is there to hold the lock
      have hfree : s.dispatch.holder = none := by
        refine Option.eq_none_iff_forall_ne_some.mpr fun a ha => ?_
        have hinside := (hlocked a).mpr ha
        by_cases htimer : a = .timer
        · rw [htimer, ← timer, hstage] at hinside
          cases hinside
        · rw [halone.others a htimer] at hinside
          cases hinside
      exact absurd (.enter hstage hfree) (h _)
  | entered =>
      match hsettle : s.dispatch.scheduler.settle with
      | (none, rest) => exact absurd (.miss hstage hsettle) (h _)
      | (some b, rest) => exact absurd (.take hstage hsettle) (h _)
  | applying b => exact absurd (.finish hstage) (h _)
  | done => exact absurd (.leave hstage) (h _)
  | returned => exact absurd hstage halone.works

/-- What the timer has handed over is applied when it is at rest. -/
theorem AtRest.applied (h : s.AtRest) (halone : s.Alone window) (hlocked : s.dispatch.Locked)
    (hlogged : s.dispatch.Logged) :
    s.dispatch.applied = s.handed.map fun x => (.timer, x.2) := by
  have hflight : s.dispatch.inFlight? = none := by
    refine Option.eq_none_iff_forall_ne_some.mpr fun ⟨a, b⟩ hab => ?_
    have hstage := hlocked.inFlight?_eq_some_iff.mp hab
    by_cases htimer : a = .timer
    · subst htimer
      exact h _ (.finish hstage)
    · rw [halone.others a htimer] at hstage
      cases hstage
  rw [← halone.taken, hlogged, hflight, Option.toList_none, List.append_nil]

/-! ### The clock can be moved to any time -/

/-- **Time goes on** up to any later time, with the timer at rest then. -/
theorem Steps.exists_later (h : Steps (start window) s) {time : Nat} (htime : s.now ≤ time) :
    ∃ s', Steps s s' ∧ s'.arrived = s.arrived ∧ s'.now = time ∧ s'.AtRest := by
  -- each turn moves the clock to the next deadline, or to the end
  induction hleft : time - s.now using Nat.strong_induction_on generalizing s with
  | _ left ih =>
      obtain ⟨t, hst, harrived, hnow, hrest⟩ := (Steps.alone h).exists_atRest
      have ht : Steps (start window) t := h.trans hst
      obtain ⟨segments, rest, horderly⟩ := Dispatch.exists_orderly window ht.dispatch
      by_cases hend : t.now = time
      · exact ⟨t, hst, harrived, hend, hrest⟩
      · have hms : ∃ ms, 0 < ms ∧ t.now + ms ≤ time ∧ t.MayPass ms := by
          obtain hidle | ⟨deadline, hasleep, hlt⟩ :=
            hrest.timer_cases (Steps.alone ht) horderly.locked
          · exact ⟨time - t.now, by omega, by omega, .inl hidle⟩
          · refine ⟨min deadline time - t.now, by omega, by omega, .inr ⟨deadline, hasleep, ?_⟩⟩
            omega
        obtain ⟨ms, hpos, hle, hmay⟩ := hms
        have hstep : Step t (t.pass ms) := .pass ms hmay
        obtain ⟨s', hsteps, harrived', hnow', hrest'⟩ :=
          ih (time - (t.pass ms).now) (by rw [now_pass]; omega) (ht.tail hstep)
            (by rw [now_pass]; exact hle) rfl
        exact ⟨s', (hst.tail hstep).trans hsteps, harrived'.trans harrived, hnow', hrest'⟩

/-- **Any arrivals can come**, at any times one after the other. -/
theorem exists_run (window : Nat) {calls : List (Nat × Arrival)}
    (hsome : ∀ x ∈ calls, x.2.isEmpty = false) (hordered : (calls.map (·.1)).Pairwise (· ≤ ·))
    {time : Nat} (htime : ∀ x ∈ calls, x.1 ≤ time) :
    ∃ s, Steps (start window) s ∧ s.arrived = calls ∧ s.now = time ∧ s.AtRest := by
  induction calls using List.reverseRecOn generalizing time with
  | nil => exact Steps.exists_later .refl (Nat.zero_le time)
  | append_singleton earlier x ih =>
      simp only [List.mem_append, List.mem_singleton, or_imp, forall_and, forall_eq] at hsome htime
      rw [List.map_append, List.map_singleton, List.pairwise_append] at hordered
      obtain ⟨s, hs, harrived, hnow, -⟩ := ih hsome.1 hordered.1 fun y hy =>
        hordered.2.2 y.1 (List.mem_map_of_mem hy) x.1 (List.mem_singleton_self _)
      have hstep : Step s (s.accept x.2) := .arrive s x.2 hsome.2
      have hlater : (s.accept x.2).now ≤ time := by
        rw [now_accept, hnow]
        exact htime.2
      obtain ⟨s', hsteps, harrived', hnow', hrest⟩ := Steps.exists_later (hs.tail hstep) hlater
      refine ⟨s', (hs.tail hstep).trans hsteps, ?_, hnow', hrest⟩
      rw [harrived', accept, harrived, hnow]

end TimedDispatch

end SymbolAtlas
