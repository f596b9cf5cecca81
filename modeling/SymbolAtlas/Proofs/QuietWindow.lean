import Mathlib.Data.List.SplitBy
import SymbolAtlas.Proofs.BatchHistory
import SymbolAtlas.Proofs.DispatchClock

/-!
# Bursts of arrivals

Arrivals that follow each other within the window of a scheduler make a burst, and the timer hands
over one batch per burst, one window after its last arrival.

The invariant is `TimedDispatch.Grouped`: the arrivals so far are those of the bursts handed over,
and then those of the burst that waits, whose time has not passed. Two arrivals exactly one window
apart are left out, as an arrival and the timer then act at the same time in either order.

## Main results

* `TimedDispatch.Grouped.accept`, `TimedDispatch.Grouped.take`: the two steps that move arrivals.
* `TimedDispatch.Grouped.step`, `TimedDispatch.Steps.exists_grouped`: what one step and a whole run
  keep.
* `TimedDispatch.bursts_handed_over`: which batches are handed over, and when.
-/

namespace SymbolAtlas

/-! ### Bursts -/

/-- The second arrival comes less than a window after the first one. -/
def joins (window : Nat) (x y : Nat × Arrival) : Bool := y.1 < x.1 + window

/-- The maximal runs of arrivals with less than a window between one and the next. -/
def bursts (window : Nat) (calls : List (Nat × Arrival)) : List (List (Nat × Arrival)) :=
  calls.splitBy (joins window)

/-- What is handed over of a burst: one window after its last arrival, all of it merged. -/
def handOver (window : Nat) (burst : List (Nat × Arrival)) : Nat × Batch :=
  ((burst.map (·.1)).getLastD 0 + window, Arrival.batchOf (burst.map (·.2)))

theorem handOver_concat (window : Nat) (burst : List (Nat × Arrival)) (x : Nat × Arrival) :
    handOver window (burst ++ [x]) =
      (x.1 + window, (handOver window burst).2.merge x.2.files x.2.deleted) := by
  simp [handOver, Arrival.batchOf_concat, List.getLastD_eq_getLast?]

theorem handOver_fst {window : Nat} {burst : List (Nat × Arrival)} {x : Nat × Arrival}
    (hx : x ∈ burst.getLast?) : (handOver window burst).1 = x.1 + window := by
  obtain ⟨earlier, rfl⟩ := List.getLast?_eq_some_iff.mp hx
  rw [handOver_concat]

/-- The last arrival of a burst that mentions a file decides what is handed over of it. -/
theorem word?_handOver_of_last {window : Nat} {earlier later : List (Nat × Arrival)}
    {x : Nat × Arrival} {u : Uri} (hx : x.2.Mentions u) (hlater : ∀ y ∈ later, ¬y.2.Mentions u) :
    (handOver window (earlier ++ x :: later)).2.word? u =
      arrivalWord? x.2.files x.2.deleted u := by
  have hmerged : (handOver window (earlier ++ x :: later)).2 =
      Arrival.batchOf (earlier.map (·.2) ++ x.2 :: later.map (·.2)) := by
    simp [handOver]
  rw [hmerged]
  refine Arrival.word?_batchOf_of_last hx fun a ha => ?_
  obtain ⟨y, hy, rfl⟩ := List.mem_map.mp ha
  exact hlater y hy

/-- A burst ends where the next arrival is not joined to it. -/
theorem bursts_append {window : Nat} {past current : List (Nat × Arrival)}
    (hapart : ∀ x ∈ past.getLast?, ∀ y ∈ current.head?, joins window x y = false)
    (hchain : current.IsChain fun x y => joins window x y = true) (hne : current ≠ []) :
    bursts window (past ++ current) = bursts window past ++ [current] := by
  rw [bursts, List.splitBy_append hapart, List.splitBy_of_isChain hne hchain]
  rfl

namespace TimedDispatch

variable {s s' : TimedDispatch} {window : Nat}

/-! ### Grouping -/

/-- What waits of a burst that has begun. -/
def waitingOf (window : Nat) (current : List (Nat × Arrival)) : Option Waiting :=
  if current = [] then none else some ⟨(handOver window current).2, (handOver window current).1⟩

theorem waitingOf_concat (window : Nat) (current : List (Nat × Arrival)) (x : Nat × Arrival) :
    waitingOf window (current ++ [x]) =
      some ⟨(handOver window current).2.merge x.2.files x.2.deleted, x.1 + window⟩ := by
  rw [waitingOf, if_neg (by simp), handOver_concat]

theorem waitingOf_eq_some {current : List (Nat × Arrival)} {w : Waiting}
    (h : waitingOf window current = some w) :
    current ≠ [] ∧ handOver window current = (w.deadline, w.batch) := by
  rw [waitingOf] at h
  split at h
  · cases h
  next hne =>
    cases h
    exact ⟨hne, rfl⟩

/-- The arrivals are those of the bursts handed over, each at its time, and then those of the burst
that waits, whose time has not passed. The timer sleeps only if something waits, and not past the
time of that. -/
structure Grouped (window : Nat) (s : TimedDispatch) (past current : List (Nat × Arrival)) :
    Prop where
  arrived : s.arrived = past ++ current
  handed : s.handed = (bursts window past).map (handOver window)
  ended : ∀ burst ∈ bursts window past, (handOver window burst).1 ≤ s.now
  last : ∀ x ∈ past.getLast?, x.1 + window ≤ s.now
  apart : ∀ x ∈ past.getLast?, ∀ y ∈ current.head?, joins window x y = false
  together : current.IsChain fun x y => joins window x y = true
  waiting : s.dispatch.scheduler.collector.waiting = waitingOf window current
  ahead : current ≠ [] →
    s.now ≤ (handOver window current).1 ∧ (handOver window current).1 ≤ s.now + window
  asleep : ∀ d, s.timer = .asleep d → current ≠ [] ∧ d ≤ (handOver window current).1

variable {past current : List (Nat × Arrival)}

theorem grouped_start (window : Nat) : (start window).Grouped window [] [] := by
  constructor <;> simp [start, bursts, waitingOf, Dispatch.start, Scheduler.start, Collector.idle,
    timer]

/-- A step that touches neither the scheduler nor what has happened so far. -/
theorem Grouped.of_eq (h : s.Grouped window past current)
    (hscheduler : s'.dispatch.scheduler = s.dispatch.scheduler) (harrived : s'.arrived = s.arrived)
    (hhanded : s'.handed = s.handed)
    (hasleep : ∀ d, s'.timer = .asleep d → current ≠ [] ∧ d ≤ (handOver window current).1) :
    s'.Grouped window past current := by
  have hnow : s'.now = s.now := congrArg Scheduler.now hscheduler
  exact ⟨harrived.trans h.arrived, hhanded.trans h.handed, hnow ▸ h.ended, hnow ▸ h.last, h.apart,
    h.together, hscheduler ▸ h.waiting, hnow ▸ h.ahead, hasleep⟩

/-- Two consecutive arrivals are not exactly one window apart. -/
def Clear (window : Nat) (calls : List (Nat × Arrival)) : Prop :=
  calls.IsChain fun x y => y.1 ≠ x.1 + window

/-- **An arrival** joins the burst that waits, or begins one. -/
theorem Grouped.accept (h : s.Grouped window past current) (halone : s.Alone window) {a : Arrival}
    (ha : a.isEmpty = false) (hclear : Clear window (s.accept a).arrived) :
    (s.accept a).Grouped window past (current ++ [(s.now, a)]) := by
  have hlatest : (handOver window (current ++ [(s.now, a)])).1 = s.now + window := by
    rw [handOver_concat]
  constructor
  · rw [TimedDispatch.accept, h.arrived, List.append_assoc]
  · exact h.handed
  · simpa using h.ended
  · simpa using h.last
  · intro x hx y hy
    cases current with
    | nil =>
        -- what was handed over last is at least a window old
        obtain rfl : (s.now, a) = y := by simpa using hy
        have hlast := h.last x hx
        simp only [joins, decide_eq_false_iff_not]
        omega
    | cons z rest => exact h.apart x hx y (by simpa using hy)
  · refine List.isChain_append.mpr ⟨h.together, List.isChain_singleton _, ?_⟩
    intro x hx y hy
    obtain rfl : (s.now, a) = y := by simpa using hy
    -- the time of what waits has not passed, and does not pass at this moment
    have hne : current ≠ [] := List.ne_nil_of_mem (List.mem_of_getLast? hx)
    have hbefore := (h.ahead hne).1
    have hmoment : s.now ≠ x.1 + window := by
      have hchain := hclear
      rw [Clear, TimedDispatch.accept, h.arrived] at hchain
      refine (List.isChain_append.mp hchain).2.2 x ?_ (s.now, a) (by simp)
      rw [List.getLast?_append_of_ne_nil _ hne]
      exact hx
    rw [handOver_fst hx] at hbefore
    exact decide_eq_true (lt_of_le_of_ne hbefore hmoment)
  · have hbatch : (s.dispatch.scheduler.collector.waiting.map Waiting.batch).getD .empty =
        (handOver window current).2 := by
      rw [h.waiting]
      cases current <;> rfl
    rw [scheduler_accept s ha, waitingOf_concat, ← hbatch, ← halone.window_eq]
    exact Collector.waiting_arrive _ _ _ _
  · rw [now_accept, hlatest]
    exact fun _ => ⟨Nat.le_add_right _ _, le_rfl⟩
  · intro d hd
    obtain ⟨hne, hle⟩ := h.asleep d hd
    have hsoon := (h.ahead hne).2
    exact ⟨by simp, by omega⟩

/-- **Time passes** no further than what waits allows. -/
theorem Grouped.pass (h : s.Grouped window past current) {ms : Nat} (hmay : s.MayPass ms) :
    (s.pass ms).Grouped window past current := by
  have hbound : current ≠ [] → s.now + ms ≤ (handOver window current).1 := by
    intro hne
    obtain ⟨-, hnone⟩ | ⟨d, hasleep, hd⟩ := hmay
    · rw [deadline?, Collector.deadline?, h.waiting, waitingOf, if_neg hne] at hnone
      cases hnone
    · exact hd.trans (h.asleep d hasleep).2
  refine ⟨h.arrived, h.handed, ?_, ?_, h.apart, h.together, h.waiting, ?_, h.asleep⟩
  · exact fun burst hburst => (h.ended burst hburst).trans (Nat.le_add_right _ _)
  · exact fun x hx => (h.last x hx).trans (Nat.le_add_right _ _)
  · intro hne
    have hsoon := (h.ahead hne).2
    rw [now_pass]
    exact ⟨hbound hne, by omega⟩

/-- **What is due is handed over**, and it is exactly on time. -/
theorem Grouped.take (h : s.Grouped window past current) {w : Waiting}
    (hw : s.dispatch.scheduler.collector.waiting = some w) (hdue : w.deadline ≤ s.now)
    (hwaiting : s'.dispatch.scheduler.collector.waiting = none) (hnow : s'.now = s.now)
    (harrived : s'.arrived = s.arrived) (hhanded : s'.handed = s.handed ++ [(s.now, w.batch)])
    (hstage : ∀ d, s'.timer ≠ .asleep d) : s'.Grouped window (past ++ current) [] := by
  rw [h.waiting] at hw
  obtain ⟨hne, hover⟩ := waitingOf_eq_some hw
  have hahead := (h.ahead hne).1
  rw [hover] at hahead
  have hmoment : handOver window current = (s.now, w.batch) := by
    rw [hover, le_antisymm hdue hahead]
  have hbursts := bursts_append h.apart h.together hne
  constructor
  · rw [harrived, h.arrived, List.append_nil]
  · rw [hhanded, h.handed, hbursts, List.map_append, List.map_singleton, hmoment]
  · rw [hbursts, hnow]
    intro burst hburst
    rcases List.mem_append.mp hburst with hold | hnew
    · exact h.ended burst hold
    · rw [List.mem_singleton.mp hnew, hmoment]
  · intro x hx
    rw [List.getLast?_append_of_ne_nil _ hne] at hx
    rw [← handOver_fst hx, hmoment, hnow]
  · exact fun x _ y hy => by cases hy
  · exact List.isChain_nil
  · exact hwaiting
  · exact fun hnil => absurd rfl hnil
  · exact fun d hd => absurd hd (hstage d)

/-- A step of the timer keeps arrivals grouped. -/
theorem Grouped.timerStep (h : s.Grouped window past current) (hstep : TimerStep s s') :
    ∃ past' current', s'.Grouped window past' current' := by
  have hawake (stage : Stage) {t : TimedDispatch} (hscheduler : t.dispatch.scheduler =
        s.dispatch.scheduler) (harrived : t.arrived = s.arrived) (hhanded : t.handed = s.handed)
      (hstage : t.timer = stage) (hnot : ∀ d, stage ≠ .asleep d) :
      ∃ past' current', t.Grouped window past' current' :=
    ⟨past, current, h.of_eq hscheduler harrived hhanded fun d hd =>
      absurd (hstage.symm.trans hd) (hnot d)⟩
  cases hstep with
  | read haway hdeadline =>
      -- the deadline that is read is that of what waits
      refine ⟨past, current, h.of_eq rfl rfl rfl fun d hd => ?_⟩
      rw [timer_move, Stage.asleep.injEq] at hd
      obtain ⟨w, hw, hdeadline⟩ := Option.map_eq_some_iff.mp hdeadline
      rw [h.waiting] at hw
      obtain ⟨hne, hover⟩ := waitingOf_eq_some hw
      rw [hover]
      exact ⟨hne, (hd.symm.trans hdeadline.symm).le⟩
  | hear haway hnone hnotified => exact ⟨past, current, h.of_eq rfl rfl rfl h.asleep⟩
  | wake hasleep hnotified => exact hawake _ rfl rfl rfl (timer_move s _) (by simp)
  | due hasleep hnow => exact hawake _ rfl rfl rfl (timer_move s _) (by simp)
  | enter hqueued hfree => exact hawake .entered rfl rfl rfl (by simp [timer]) (by simp)
  | miss hentered hsettle =>
      obtain ⟨rfl, -⟩ := Scheduler.settle_eq_none hsettle
      exact hawake .done rfl rfl rfl (by simp [timer]) (by simp)
  | take hentered hsettle =>
      obtain ⟨w, hw, rfl, hdue, rfl⟩ := Scheduler.settle_eq_some hsettle
      refine ⟨_, [], h.take hw hdue rfl rfl rfl rfl fun d hd => ?_⟩
      simp [timer] at hd
  | finish happlying => exact hawake .done rfl rfl rfl (by simp [timer]) (by simp)
  | leave hdone => exact hawake .away rfl rfl rfl (by simp [timer]) (by simp)

/-- **One step** keeps arrivals grouped. -/
theorem Grouped.step (h : s.Grouped window past current) (halone : s.Alone window)
    (hstep : Step s s') (hclear : Clear window s'.arrived) :
    ∃ past' current', s'.Grouped window past' current' := by
  cases hstep with
  | arrive a ha => exact ⟨past, _, h.accept halone ha hclear⟩
  | pass ms hmay => exact ⟨past, current, h.pass hmay⟩
  | timer htimer => exact h.timerStep htimer

/-! ### Runs -/

theorem Clear.earlier {calls calls' : List (Nat × Arrival)} (h : Clear window calls')
    (hearlier : calls <+: calls') : Clear window calls := by
  obtain ⟨later, rfl⟩ := hearlier
  exact List.IsChain.left_of_append h

/-- **A whole run** keeps arrivals grouped. -/
theorem Steps.exists_grouped (h : Steps (start window) s) (hclear : Clear window s.arrived) :
    ∃ past current, s.Grouped window past current := by
  induction h with
  | refl => exact ⟨[], [], grouped_start window⟩
  | tail hsteps hstep ih =>
      obtain ⟨past, current, hgrouped⟩ := ih (hclear.earlier hstep.arrived_extends)
      exact hgrouped.step (Steps.alone hsteps) hstep hclear

/-! ### What is handed over when -/

/-- What waits is not due if the timer is at rest. -/
theorem Grouped.now_lt (h : s.Grouped window past current) (halone : s.Alone window)
    (hlocked : s.dispatch.Locked) (hrest : s.AtRest) (hne : current ≠ []) :
    s.now < (handOver window current).1 := by
  obtain ⟨-, hnone⟩ | ⟨deadline, hasleep, hlt⟩ := hrest.timer_cases halone hlocked
  · rw [deadline?, Collector.deadline?, h.waiting, waitingOf, if_neg hne] at hnone
    cases hnone
  · exact hlt.trans_le (h.asleep deadline hasleep).2

/-- The bursts so far are those handed over, and the one that waits. -/
theorem Grouped.bursts_arrived (h : s.Grouped window past current) :
    bursts window s.arrived = bursts window past ++ if current = [] then [] else [current] := by
  rw [h.arrived]
  split
  next hnil => rw [hnil, List.append_nil, List.append_nil]
  next hne => exact bursts_append h.apart h.together hne

theorem Grouped.waiting? (h : s.Grouped window past current) :
    s.dispatch.waiting? =
      (if current = [] then [] else [current]).head?.map
        fun burst => (handOver window burst).2 := by
  rw [Dispatch.waiting?, Scheduler.waiting?, h.waiting, waitingOf]
  split <;> rfl

/-- With the timer at rest, the bursts handed over are those whose time has come. -/
theorem Grouped.handed_eq_filter (h : s.Grouped window past current)
    (hahead : current ≠ [] → s.now < (handOver window current).1) :
    s.handed = ((bursts window s.arrived).filter fun burst =>
      (handOver window burst).1 ≤ s.now).map (handOver window) := by
  have hended : (bursts window past).filter (fun burst => (handOver window burst).1 ≤ s.now) =
      bursts window past :=
    List.filter_eq_self.mpr fun burst hburst => decide_eq_true (h.ended burst hburst)
  rw [h.handed, h.bursts_arrived, List.filter_append, hended]
  split
  next => rw [List.filter_nil, List.append_nil]
  next hne =>
    have hlater : ¬(handOver window current).1 ≤ s.now := Nat.not_le.mpr (hahead hne)
    simp [hlater]

/-- **One batch for each burst, one window after its last arrival.** Let arrivals of something come
one after the other, no two in a row exactly one window apart. Then
* they can come so, and the clock can be moved to any time after them with the timer at rest;
* a burst is merged in order: of each file it says what the last of its arrivals that mentions the
  file says.

In every state that the arrivals, the clock and the timer reach in any interleaving when these
arrivals have come:
* the timer comes to rest by itself;
* the bursts are those handed over, each once, in order and exactly at its time, and then at most
  one that waits, whose time has not passed;
* the batches applied are those handed over, with no other between them, and all of them once the
  timer is at rest;
* the bursts handed over are then those whose time has come. -/
theorem bursts_handed_over (window : Nat) (calls : List (Nat × Arrival))
    (hsome : ∀ x ∈ calls, x.2.isEmpty = false) (hordered : (calls.map (·.1)).Pairwise (· ≤ ·))
    (hclear : Clear window calls) :
    (∀ time, (∀ x ∈ calls, x.1 ≤ time) →
      ∃ s, Steps (start window) s ∧ s.arrived = calls ∧ s.now = time ∧ s.AtRest) ∧
    (∀ earlier x later u, earlier ++ x :: later ∈ bursts window calls → x.2.Mentions u →
      (∀ y ∈ later, ¬y.2.Mentions u) →
      (handOver window (earlier ++ x :: later)).2.word? u =
        arrivalWord? x.2.files x.2.deleted u) ∧
    ∀ s, Steps (start window) s → s.arrived = calls →
      Acc (fun t' t => TimerStep t t') s ∧
      (∃ ended waiting, bursts window calls = ended ++ waiting ∧ waiting.length ≤ 1 ∧
        s.handed = ended.map (handOver window) ∧
        s.dispatch.waiting? = waiting.head?.map (fun burst => (handOver window burst).2) ∧
        (∀ burst ∈ ended, (handOver window burst).1 ≤ s.now) ∧
        ∀ burst ∈ waiting, s.now ≤ (handOver window burst).1) ∧
      s.dispatch.applied <+: s.handed.map (fun x => (.timer, x.2)) ∧
      (s.AtRest →
        s.dispatch.applied = s.handed.map (fun x => (.timer, x.2)) ∧
        s.handed = ((bursts window calls).filter fun burst =>
          (handOver window burst).1 ≤ s.now).map (handOver window)) := by
  refine ⟨fun time htime => exists_run window hsome hordered htime, ?_, ?_⟩
  · exact fun earlier x later u _ hx hlater => word?_handOver_of_last hx hlater
  · rintro s hs rfl
    have halone := Steps.alone hs
    obtain ⟨segments, rest, horderly⟩ := Dispatch.exists_orderly window (Steps.dispatch hs)
    obtain ⟨past, current, hgrouped⟩ := Steps.exists_grouped hs hclear
    refine ⟨halone.acc, ?_, ?_, fun hrest => ⟨?_, ?_⟩⟩
    · refine ⟨_, _, hgrouped.bursts_arrived, ?_, hgrouped.handed, hgrouped.waiting?,
        hgrouped.ended, ?_⟩
      · split <;> simp
      · split
        · simp
        next hne => simpa using (hgrouped.ahead hne).1
    · rw [← halone.taken, horderly.logged]
      exact List.prefix_append _ _
    · exact hrest.applied halone horderly.locked horderly.logged
    · exact hgrouped.handed_eq_filter fun hne =>
        hgrouped.now_lt halone horderly.locked hrest hne

/-- The second arrival comes before the deadline of the first one; the third one begins another
burst. -/
theorem bursts_handed_over_twice :
    let a : Uri := ⟨"file:///a"⟩
    let first : Arrival := ⟨[⟨a, "a", "class Foo"⟩], []⟩
    let second : Arrival := ⟨[], [a]⟩
    let third : Arrival := ⟨[⟨a, "a", "trait Foo"⟩], []⟩
    let calls := [(0, first), (5, second), (40, third)]
    ((∀ x ∈ calls, x.2.isEmpty = false) ∧ (calls.map (·.1)).Pairwise (· ≤ ·) ∧
        Clear 10 calls) ∧
      ∀ time ≥ 40, ∃ s, Steps (start 10) s ∧ s.arrived = calls ∧ s.now = time ∧
        s.handed = (15, Arrival.batchOf [first, second]) ::
          if time < 50 then [] else [(50, Arrival.batchOf [third])] := by
  intro a first second third calls
  have hsome : ∀ x ∈ calls, x.2.isEmpty = false := by decide
  have hordered : (calls.map (·.1)).Pairwise (· ≤ ·) := by decide
  have hclear : Clear 10 calls := by simp [Clear, calls]
  obtain ⟨hrun, -, hstate⟩ := bursts_handed_over 10 calls hsome hordered hclear
  refine ⟨⟨hsome, hordered, hclear⟩, fun time htime => ?_⟩
  obtain ⟨s, hs, harrived, hnow, hrest⟩ := hrun time (by simp [calls]; omega)
  refine ⟨s, hs, harrived, hnow, ?_⟩
  obtain ⟨-, hhanded⟩ := (hstate s hs harrived).2.2.2 hrest
  have hbursts : bursts 10 calls = [[(0, first), (5, second)], [(40, third)]] := rfl
  have hfirst : handOver 10 [(0, first), (5, second)] = (15, Arrival.batchOf [first, second]) := rfl
  have hsecond : handOver 10 [(40, third)] = (50, Arrival.batchOf [third]) := rfl
  rw [hhanded, hbursts, hnow]
  by_cases hlate : time < 50
  · simp [hfirst, hsecond, hlate, show 15 ≤ time by omega, show ¬50 ≤ time by omega]
  · simp [hfirst, hsecond, hlate, show 15 ≤ time by omega, show 50 ≤ time by omega]

end TimedDispatch

end SymbolAtlas
