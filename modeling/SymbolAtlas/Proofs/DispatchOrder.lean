import Mathlib.Data.List.Infix
import SymbolAtlas.Proofs.Dispatch
import SymbolAtlas.Proofs.LastWord

/-!
# The order of dispatch

Where batches are cut depends on the clock and on who calls when, and arrivals come while batches
are being applied. This module shows that no interleaving loses, repeats or reorders anything. The
batches taken so far are the merges of consecutive segments of the arrivals, and what waits is the
merge of the arrivals after them: `Dispatch.Cut` keeps the segments, which the scheduler does not.

What a flush promises is followed from before its call. Up to entering it owes nothing; what it
takes reaches up to the last arrival; and once it has applied that, or found nothing to take, the
lock tells it that all batches taken before are applied as well. `Stage.Covers` says how far it
is.

## Main results

* `Dispatch.Cut.arrive`, `Dispatch.Cut.take`: the two steps that move the segments.
* `Dispatch.Orderly.step`, `Dispatch.Orderly.steps`: what one step and a whole run keep.
* `dispatch_in_order`: nothing is lost, repeated or reordered, and a flush that has returned leaves
  no earlier arrival unapplied.
-/

namespace SymbolAtlas

/-! ### Merged arrivals -/

namespace Arrival

/-- The batch that arrivals are merged into. -/
def batchOf (arrivals : List Arrival) : Batch :=
  arrivals.foldl (fun b a => b.merge a.files a.deleted) .empty

theorem batchOf_concat (arrivals : List Arrival) (a : Arrival) :
    batchOf (arrivals ++ [a]) = (batchOf arrivals).merge a.files a.deleted := by
  rw [batchOf, List.foldl_append]
  rfl

/-- An arrival of something speaks of some file. -/
theorem exists_arrivalWord? {a : Arrival} (h : a.isEmpty = false) :
    ∃ u, arrivalWord? a.files a.deleted u ≠ none := by
  obtain ⟨files, deleted⟩ := a
  cases deleted with
  | cons u deleted => exact ⟨u, by simp [arrivalWord?]⟩
  | nil =>
      cases files with
      | nil => cases h
      | cons f files =>
          refine ⟨f.uri, ?_⟩
          simp [arrivalWord?, latest?_eq_none_iff]

end Arrival

/-- A batch that speaks of a file is not empty. -/
theorem Batch.isEmpty_of_word? {b : Batch} {u : Uri} (h : b.word? u ≠ none) :
    b.isEmpty = false := by
  obtain ⟨⟨files, hfiles⟩, ⟨deleted, hdeleted⟩⟩ := b
  cases files with
  | cons e files => rfl
  | nil =>
      cases deleted with
      | cons e deleted => rfl
      | nil => exact absurd rfl h

/-- Merging arrivals of something gives a batch that is not empty. -/
theorem Arrival.isEmpty_batchOf {arrivals : List Arrival} (hne : arrivals ≠ [])
    (h : ∀ a ∈ arrivals, a.isEmpty = false) : (batchOf arrivals).isEmpty = false := by
  obtain ⟨earlier, last, rfl⟩ := (List.eq_nil_or_concat' arrivals).resolve_left hne
  obtain ⟨u, hu⟩ := exists_arrivalWord? (h last (by simp))
  refine Batch.isEmpty_of_word? (u := u) ?_
  rw [batchOf_concat, Batch.word?_merge, Ne, Option.or_eq_none_iff]
  exact fun hnone => hu hnone.1

/-! ### What waits -/

/-- An arrival is merged into what waits, which then waits for one window more. -/
theorem Collector.waiting_arrive (c : Collector) (files : List FileEntry) (deleted : List Uri)
    (now : Nat) : (c.arrive files deleted now).waiting =
      some ⟨((c.waiting.map Waiting.batch).getD .empty).merge files deleted, now + c.window⟩ := by
  rw [arrive]
  cases c.waiting <;> rfl

/-- The timer finds nothing to take if nothing waits or if its time has not come, or if the timer
does not run. -/
theorem Scheduler.settle_eq_none {s rest : Scheduler} (h : s.settle = (none, rest)) :
    rest = s ∧ (s.running = true → ∀ w ∈ s.collector.waiting, s.now < w.deadline) := by
  obtain ⟨collector, now, running⟩ := s
  cases running with
  | false =>
      cases h
      exact ⟨rfl, nofun⟩
  | true =>
      simp only [settle, if_true, Collector.poll] at h
      split at h
      next hnone =>
        cases h
        simp [hnone]
      next w hw =>
        split at h
        next hdue => simp [Collector.flush, hw] at h
        next hearly =>
          cases h
          simpa [hw] using hearly

/-- The timer takes what waits if its time has come. -/
theorem Scheduler.settle_eq_some {s rest : Scheduler} {b : Batch} (h : s.settle = (some b, rest)) :
    ∃ w, s.collector.waiting = some w ∧ w.batch = b ∧ w.deadline ≤ s.now ∧
      rest = { s with collector := { s.collector with waiting := none } } := by
  simp only [settle, Collector.poll] at h
  split at h
  · split at h
    next => cases h
    next w hw =>
      split at h
      next hdue =>
        simp only [Collector.flush, hw, Option.map_some, Prod.mk.injEq, Option.some.injEq] at h
        exact ⟨w, hw, h.1, hdue, h.2.symm⟩
      next => cases h
  · cases h

/-! ### How far a call is -/

/-- At its stage, a call has taken the arrivals `old`, or has seen them applied: those of the first
`applied` segments are. -/
def Stage.Covers (stage : Stage) (old : List Arrival) (segments : List (List Arrival))
    (applied : Nat) : Prop :=
  match stage with
  | .applying _ => old <+: segments.flatten
  | .done | .returned => old <+: (segments.take applied).flatten
  | .away | .asleep _ | .queued | .entered => True

/-- More segments and more applied batches hold no less. -/
theorem flatten_take_mono {α : Type} {segments segments' : List (List α)}
    (hsegments : segments <+: segments') {n n' : Nat} (hn : n ≤ n') :
    (segments.take n).flatten <+: (segments'.take n').flatten :=
  ((List.take_prefix_take_left hn).trans (hsegments.take n')).flatten

theorem Stage.Covers.mono {stage : Stage} {old : List Arrival}
    {segments segments' : List (List Arrival)} {n n' : Nat} (h : stage.Covers old segments n)
    (hsegments : segments <+: segments') (hn : n ≤ n') : stage.Covers old segments' n' := by
  cases stage with
  | applying b => exact List.IsPrefix.trans h hsegments.flatten
  | done => exact List.IsPrefix.trans h (flatten_take_mono hsegments hn)
  | returned => exact List.IsPrefix.trans h (flatten_take_mono hsegments hn)
  | _ => trivial

namespace Dispatch

variable {s s' : Dispatch}

/-! ### Segments of the arrivals -/

/-- The batches taken are the merges of consecutive segments of the arrivals, and what waits is the
merge of the arrivals `rest` after them. -/
structure Cut (s : Dispatch) (segments : List (List Arrival)) (rest : List Arrival) : Prop where
  nonempty : ∀ segment ∈ segments, segment ≠ []
  accepted : s.accepted = segments.flatten ++ rest
  taken : s.taken.map (·.2) = segments.map Arrival.batchOf
  waiting : s.waiting? = if rest.isEmpty then none else some (Arrival.batchOf rest)
  something : ∀ a ∈ s.accepted, a.isEmpty = false

variable {segments segments' : List (List Arrival)} {rest : List Arrival}

theorem cut_start (window : Nat) : (start window).Cut [] [] :=
  ⟨by simp, rfl, rfl, rfl, by simp [start]⟩

/-- A step that touches neither arrivals nor batches. -/
theorem Cut.of_eq (h : s.Cut segments rest) (haccepted : s'.accepted = s.accepted)
    (htaken : s'.taken = s.taken) (hwaiting : s'.waiting? = s.waiting?) :
    s'.Cut segments rest :=
  ⟨h.nonempty, haccepted.trans h.accepted, htaken ▸ h.taken, hwaiting.trans h.waiting,
    haccepted ▸ h.something⟩

/-- Nothing waits exactly if there are no arrivals after those taken. -/
theorem Cut.rest_eq_nil (h : s.Cut segments rest) (hwaiting : s.waiting? = none) : rest = [] := by
  rw [h.waiting] at hwaiting
  cases rest with
  | nil => rfl
  | cons a rest => cases hwaiting

/-- Taking an arrival in merges it into what waits. -/
theorem waiting?_schedule (s : Scheduler) {a : Arrival} (ha : a.isEmpty = false) :
    (s.schedule a.files a.deleted).waiting? =
      some ((s.waiting?.getD .empty).merge a.files a.deleted) := by
  rw [Arrival.isEmpty] at ha
  rw [Scheduler.schedule, ha]
  exact congrArg (Option.map Waiting.batch) (Collector.waiting_arrive _ _ _ _)

/-- **An arrival** extends what waits, unless it is one of nothing. -/
theorem Cut.arrive (h : s.Cut segments rest) (a : Arrival) :
    Cut { s with
      scheduler := s.scheduler.schedule a.files a.deleted
      accepted := s.accepted ++ if a.isEmpty then [] else [a] }
      segments (rest ++ if a.isEmpty then [] else [a]) := by
  cases ha : a.isEmpty with
  | true =>
      have hsame : s.scheduler.schedule a.files a.deleted = s.scheduler := by
        rw [Arrival.isEmpty] at ha
        rw [Scheduler.schedule, if_pos ha]
      simp only [if_true, List.append_nil, hsame]
      exact h
  | false =>
      simp only [Bool.false_eq_true, if_false]
      refine ⟨h.nonempty, by simp [h.accepted], h.taken, ?_, ?_⟩
      · have hmerged : s.scheduler.waiting?.getD .empty = Arrival.batchOf rest := by
          have hwaiting := h.waiting
          rw [waiting?] at hwaiting
          rw [hwaiting]
          cases rest <;> rfl
        rw [waiting?, waiting?_schedule _ ha, hmerged, ← Arrival.batchOf_concat]
        simp
      · simp only [List.mem_append, List.mem_singleton]
        rintro c (hc | rfl)
        · exact h.something c hc
        · exact ha

/-- Who finds nothing to take leaves what waits alone; a call finds nothing only if nothing
waits. -/
theorem waiting?_of_miss {a : Applier} {sched left : Scheduler}
    (h : a.takeFrom sched = (none, left)) :
    left.waiting? = sched.waiting? ∧
      (a ≠ .timer → sched.waiting? = none) := by
  have hcall (h : sched.take = (none, left)) :
      left.waiting? = sched.waiting? ∧
        sched.waiting? = none := by
    simp only [Scheduler.take, Collector.flush, Prod.mk.injEq] at h
    obtain ⟨hnone, rfl⟩ := h
    exact ⟨hnone.symm, hnone⟩
  cases a with
  | flush call => exact ⟨(hcall h).1, fun _ => (hcall h).2⟩
  | take call => exact ⟨(hcall h).1, fun _ => (hcall h).2⟩
  | timer =>
      obtain ⟨rfl, -⟩ := Scheduler.settle_eq_none h
      exact ⟨rfl, fun hne => absurd rfl hne⟩

/-- Whoever takes a batch takes all that waits. -/
theorem waiting?_of_take {a : Applier} {b : Batch} {sched left : Scheduler}
    (h : a.takeFrom sched = (some b, left)) :
    sched.waiting? = some b ∧
      left.waiting? = none := by
  have hcall (h : sched.take = (some b, left)) : sched.waiting? = some b ∧
      left.waiting? = none := by
    simp only [Scheduler.take, Collector.flush, Prod.mk.injEq] at h
    obtain ⟨hsome, rfl⟩ := h
    exact ⟨hsome, rfl⟩
  cases a with
  | flush call => exact hcall h
  | take call => exact hcall h
  | timer =>
      obtain ⟨w, hw, rfl, -, rfl⟩ := Scheduler.settle_eq_some h
      exact ⟨congrArg (Option.map Waiting.batch) hw, rfl⟩

/-- **Taking a batch** makes a segment of the arrivals that waited. -/
theorem Cut.take (h : s.Cut segments rest) {a : Applier} {b : Batch} {left : Scheduler}
    (htake : a.takeFrom s.scheduler = (some b, left)) :
    Cut { s with
      stage := Function.update s.stage a (.applying b)
      scheduler := left
      taken := s.taken ++ [(a, b)] } (segments ++ [rest]) [] := by
  obtain ⟨hwaited, hleft⟩ := waiting?_of_take htake
  have hwaiting := h.waiting
  rw [waiting?, hwaited] at hwaiting
  cases rest with
  | nil => cases hwaiting
  | cons c rest =>
      obtain rfl : b = Arrival.batchOf (c :: rest) := by simpa using hwaiting
      refine ⟨?_, by simp [h.accepted], by simp [h.taken], hleft, h.something⟩
      intro segment hsegment
      rcases List.mem_append.mp hsegment with hold | hnew
      · exact h.nonempty segment hold
      · rw [List.mem_singleton.mp hnew]
        exact List.cons_ne_nil c rest

/-- The lock, the log and the segments agree with each other. -/
structure Orderly (s : Dispatch) (segments : List (List Arrival)) (rest : List Arrival) :
    Prop where
  locked : s.Locked
  logged : s.Logged
  cut : s.Cut segments rest

/-- Who is inside and applies nothing has seen all batches taken so far applied. -/
theorem Orderly.take_applied (h : s.Orderly segments rest) {a : Applier} {stage : Stage}
    (hstage : s.stage a = stage) (hinside : stage.inside = true) (hidle : stage.batch? = none) :
    segments.take s.applied.length = segments := by
  have hflight := h.locked.inFlight?_of_inside hstage hinside
  have hlog := h.logged
  rw [Logged, hflight, hidle, Option.map_none, Option.toList_none, List.append_nil] at hlog
  have hlength := congrArg List.length h.cut.taken
  rw [List.length_map, List.length_map, hlog] at hlength
  rw [hlength, List.take_length]

/-! ### What a call owes to the arrivals before it -/

/-- The arrivals `old` were accepted, and the call has done for them what its stage says. -/
structure Serves (s : Dispatch) (a : Applier) (old : List Arrival)
    (segments : List (List Arrival)) : Prop where
  accepted : old <+: s.accepted
  covers : (s.stage a).Covers old segments s.applied.length

variable {a : Applier} {old : List Arrival}

/-- Somebody moves: if it is the call, its new stage has to say something, and otherwise nothing is
undone. -/
theorem Serves.of_update (h : s.Serves a old segments) {c : Applier} {stage : Stage}
    (hstage : s'.stage = Function.update s.stage c stage) (haccepted : s'.accepted = s.accepted)
    (hsegments : segments <+: segments') (happlied : s.applied.length ≤ s'.applied.length)
    (hself : c = a → stage.Covers old segments' s'.applied.length) :
    s'.Serves a old segments' := by
  refine ⟨haccepted ▸ h.accepted, ?_⟩
  rw [hstage]
  by_cases hc : c = a
  · subst hc
    rw [Function.update_self]
    exact hself rfl
  · rw [Function.update_of_ne (Ne.symm hc)]
    exact h.covers.mono hsegments happlied

/-- **One step** keeps everything in order, and what a call owes. -/
theorem Orderly.step (h : s.Orderly segments rest) (hserves : s.Serves a old segments)
    (ha : a ≠ .timer) (hstep : Step s s') :
    ∃ segments' rest', s'.Orderly segments' rest' ∧ s'.Serves a old segments' := by
  have hlocked := h.locked.step hstep
  have hlogged := h.logged.step h.locked hstep
  have hcut := h.cut
  have hmove {c : Applier} {stage : Stage} (hstage : s'.stage = Function.update s.stage c stage)
      (haccepted : s'.accepted = s.accepted) (htaken : s'.taken = s.taken)
      (hwaiting : s'.waiting? = s.waiting?) (happlied : s.applied.length ≤ s'.applied.length)
      (hself : c = a → stage.Covers old segments s'.applied.length) :
      ∃ segments' rest', s'.Orderly segments' rest' ∧ s'.Serves a old segments' :=
    ⟨segments, rest, ⟨hlocked, hlogged, hcut.of_eq haccepted htaken hwaiting⟩,
      hserves.of_update hstage haccepted (List.prefix_refl _) happlied hself⟩
  cases hstep with
  | arrive c =>
      refine ⟨segments, _, ⟨hlocked, hlogged, hcut.arrive c⟩, ?_, hserves.covers⟩
      exact hserves.accepted.trans (List.prefix_append _ _)
  | pass ms => exact ⟨segments, rest, ⟨hlocked, hlogged, hcut.of_eq rfl rfl rfl⟩,
      hserves.accepted, hserves.covers⟩
  | read haway hdeadline => exact hmove rfl rfl rfl rfl le_rfl fun h => absurd h.symm ha
  | wake hasleep => exact hmove rfl rfl rfl rfl le_rfl fun h => absurd h.symm ha
  | due hasleep hnow => exact hmove rfl rfl rfl rfl le_rfl fun h => absurd h.symm ha
  | stop houtside => exact hmove rfl rfl rfl rfl le_rfl fun h => absurd h.symm ha
  | call c htimer haway => exact hmove rfl rfl rfl rfl le_rfl fun _ => trivial
  | enter c hqueued hfree => exact hmove rfl rfl rfl rfl le_rfl fun _ => trivial
  | miss c hentered htake =>
      obtain ⟨hwaiting, hnone⟩ := waiting?_of_miss htake
      refine hmove rfl rfl rfl hwaiting le_rfl ?_
      -- a call that finds nothing knows that everything was taken, and with the lock applied
      rintro rfl
      have haccepted := hcut.accepted
      rw [hcut.rest_eq_nil (hnone ha), List.append_nil] at haccepted
      change old <+: (segments.take s.applied.length).flatten
      rw [h.take_applied hentered rfl rfl, ← haccepted]
      exact hserves.accepted
  | take c hentered htake =>
      refine ⟨segments ++ [rest], [], ⟨hlocked, hlogged, hcut.take htake⟩, ?_⟩
      refine hserves.of_update rfl rfl (List.prefix_append _ _) le_rfl fun _ => ?_
      change old <+: (segments ++ [rest]).flatten
      rw [List.flatten_append, List.flatten_singleton, ← hcut.accepted]
      exact hserves.accepted
  | finish c happlying =>
      have horderly : Orderly _ segments rest := ⟨hlocked, hlogged, hcut.of_eq rfl rfl rfl⟩
      refine hmove rfl rfl rfl rfl (by simp) ?_
      rintro rfl
      have hcovers := hserves.covers
      rw [happlying] at hcovers
      have htake := horderly.take_applied (Function.update_self c _ _) rfl rfl
      simp only [Stage.Covers] at hcovers ⊢
      rwa [htake]
  | leave c hdone =>
      refine hmove rfl rfl rfl rfl le_rfl ?_
      rintro rfl
      have hcovers := hserves.covers
      rw [hdone] at hcovers
      cases c with
      | timer => exact absurd rfl ha
      | flush call => exact hcovers
      | take call => exact hcovers

/-- **Any number of steps** keep everything in order, and what a call owes. -/
theorem Orderly.steps (h : s.Orderly segments rest) (hserves : s.Serves a old segments)
    (ha : a ≠ .timer) (hsteps : s.Steps s') :
    ∃ segments' rest', s'.Orderly segments' rest' ∧ s'.Serves a old segments' := by
  induction hsteps with
  | refl => exact ⟨segments, rest, h, hserves⟩
  | tail _ hstep ih =>
      obtain ⟨segments', rest', horderly, hserves'⟩ := ih
      exact horderly.step hserves' ha hstep

/-- Everything is in order in every state that is reached from the start. -/
theorem exists_orderly (window : Nat) (hsteps : (start window).Steps s) :
    ∃ segments rest, s.Orderly segments rest := by
  have hstart : (start window).Orderly [] [] := ⟨locked_start window, rfl, cut_start window⟩
  have hserves : (start window).Serves (.flush 0) [] [] := ⟨List.prefix_refl _, trivial⟩
  obtain ⟨segments, rest, horderly, -⟩ := hstart.steps hserves (by simp) hsteps
  exact ⟨segments, rest, horderly⟩

/-! ### Batches and the arrivals in them -/

/-- Each arrival is in one of the segments, in their order; the batches taken and then the one that
waits are the merges of the segments. -/
structure Batched (s : Dispatch) (segments : List (List Arrival)) : Prop where
  nonempty : ∀ segment ∈ segments, segment ≠ []
  flatten : segments.flatten = s.accepted
  batches : s.taken.map (·.2) ++ s.waiting?.toList = segments.map Arrival.batchOf

/-- What waits is the last segment, unless nothing does. -/
theorem Cut.batched (h : s.Cut segments rest) :
    s.Batched (segments ++ if rest.isEmpty then [] else [rest]) := by
  have hwaiting := h.waiting
  cases rest with
  | nil =>
      have haccepted := h.accepted
      rw [List.append_nil] at haccepted
      refine ⟨by simpa using h.nonempty, by simpa using haccepted.symm, ?_⟩
      rw [hwaiting, h.taken]
      simp
  | cons a rest =>
      refine ⟨?_, by simp [h.accepted], ?_⟩
      · simp only [List.isEmpty_cons, Bool.false_eq_true, if_false, List.mem_append,
          List.mem_singleton]
        rintro segment (hold | rfl)
        · exact h.nonempty segment hold
        · exact List.cons_ne_nil a rest
      · rw [hwaiting, h.taken]
        simp

/-- A batch that waits holds something. -/
theorem Cut.isEmpty_waiting (h : s.Cut segments rest) {b : Batch} (hb : s.waiting? = some b) :
    b.isEmpty = false := by
  rw [h.waiting] at hb
  cases rest with
  | nil => cases hb
  | cons a rest =>
      obtain rfl : Arrival.batchOf (a :: rest) = b := by simpa using hb
      refine Arrival.isEmpty_batchOf (List.cons_ne_nil a rest) fun c hc => h.something c ?_
      rw [h.accepted]
      exact List.mem_append_right _ hc

/-- The arrival number `i` is in the segment number `j`. -/
def InSegment (segments : List (List Arrival)) (j i : Nat) : Prop :=
  (segments.take j).flatten.length ≤ i ∧ i < (segments.take (j + 1)).flatten.length

/-- An arrival is in at most one segment. -/
theorem InSegment.unique {i j j' : Nat} (h : InSegment segments j i)
    (h' : InSegment segments j' i) : j = j' := by
  have hmono {m n : Nat} (hmn : m ≤ n) :
      (segments.take m).flatten.length ≤ (segments.take n).flatten.length :=
    (flatten_take_mono (List.prefix_refl segments) hmn).length_le
  rcases Nat.lt_trichotomy j j' with hlt | heq | hgt
  · exact absurd (h.2.trans_le (hmono hlt)) (Nat.not_lt.mpr h'.1)
  · exact heq
  · exact absurd (h'.2.trans_le (hmono hgt)) (Nat.not_lt.mpr h.1)

/-- An arrival of the first `n` segments is in one of them. -/
theorem exists_inSegment {i : Nat} (n : Nat) (hi : i < (segments.take n).flatten.length) :
    ∃ j < n, InSegment segments j i := by
  induction n with
  | zero => simp at hi
  | succ n ih =>
      by_cases hearlier : i < (segments.take n).flatten.length
      · obtain ⟨j, hj, hin⟩ := ih hearlier
        exact ⟨j, hj.trans (Nat.lt_succ_self n), hin⟩
      · exact ⟨n, Nat.lt_succ_self n, Nat.not_lt.mp hearlier, hi⟩

/-- The arrivals that a returned call has served are each in exactly one applied batch. -/
theorem Serves.existsUnique (h : s.Serves a old segments) (hreturned : s.stage a = .returned)
    {more : List (List Arrival)} {i : Nat} (hi : i < old.length) :
    ∃! j, j < s.applied.length ∧ InSegment (segments ++ more) j i := by
  have hcovers := h.covers
  rw [hreturned] at hcovers
  have hprefix : old <+: ((segments ++ more).take s.applied.length).flatten :=
    List.IsPrefix.trans hcovers (flatten_take_mono (List.prefix_append _ _) le_rfl)
  obtain ⟨j, hj, hin⟩ := exists_inSegment _ (hi.trans_le hprefix.length_le)
  exact ⟨j, ⟨hj, hin⟩, fun j' hj' => hj'.2.unique hin⟩

end Dispatch

/-- **Nothing is lost, repeated or reordered.** In every state that arrivals, the clock, a timer and
any number of calls reach in any interleaving:
* the batches taken, in the order in which they were taken, and then the batch that waits are the
  merges of consecutive segments of the accepted arrivals, which all hold something;
* the batches are applied one at a time, by whoever took them, and in the order taken: those taken
  are those applied and the one that somebody is applying, if there is one;
* a batch that waits is not empty;
* when a flush that had not been called in this state has returned, each arrival that had been
  accepted is in exactly one of the batches applied by then. -/
theorem dispatch_in_order (window : Nat) (s : Dispatch) (hs : (Dispatch.start window).Steps s) :
    (∃ segments, s.Batched segments) ∧ (∀ a ∈ s.accepted, a.isEmpty = false) ∧
      s.taken = s.applied ++ s.inFlight?.toList ∧
      (∀ a b, s.inFlight? = some (a, b) ↔ s.stage a = .applying b) ∧
      (∀ b, s.waiting? = some b → b.isEmpty = false) ∧
      ∀ (call : Nat) (s' : Dispatch), s.stage (.flush call) = .away → s.Steps s' →
        s'.stage (.flush call) = .returned →
        s.accepted <+: s'.accepted ∧ ∃ segments, s'.Batched segments ∧
          ∀ i < s.accepted.length,
            ∃! j, j < s'.applied.length ∧ Dispatch.InSegment segments j i := by
  obtain ⟨segments, rest, horderly⟩ := Dispatch.exists_orderly window hs
  have hcut := horderly.cut
  refine ⟨⟨_, hcut.batched⟩, hcut.something, horderly.logged,
    fun a b => horderly.locked.inFlight?_eq_some_iff, fun b hb => hcut.isEmpty_waiting hb, ?_⟩
  intro call s' haway hsteps hreturned
  have hserves : s.Serves (.flush call) s.accepted segments :=
    ⟨List.prefix_refl _, by rw [haway]; trivial⟩
  obtain ⟨segments', rest', horderly', hserves'⟩ := horderly.steps hserves (by simp) hsteps
  exact ⟨hserves'.accepted, _, horderly'.cut.batched, fun i hi =>
    hserves'.existsUnique hreturned hi⟩

/-- The timer has taken a file and is applying it when a deletion arrives and a flush is called; the
flush waits for the timer, and another file arrives before it takes what waits. -/
theorem dispatch_in_order_contended :
    let a : Uri := ⟨"file:///a"⟩
    let b : Uri := ⟨"file:///b"⟩
    let first : Arrival := ⟨[⟨a, "a", "class Foo"⟩], []⟩
    let second : Arrival := ⟨[], [a]⟩
    let third : Arrival := ⟨[⟨b, "b", "trait Bar"⟩], []⟩
    ∃ s s', (Dispatch.start 10).Steps s ∧ s.Steps s' ∧ s.accepted = [first, second] ∧
      s.stage .timer = .applying (Arrival.batchOf [first]) ∧ s.stage (.flush 0) = .away ∧
      s'.stage (.flush 0) = .returned ∧ s'.applied =
        [(.timer, Arrival.batchOf [first]), (.flush 0, Arrival.batchOf [second, third])] ∧
      ∃ segments, s'.Batched segments ∧ ∀ i < 2, ∃! j, j < 2 ∧ Dispatch.InSegment segments j i := by
  intro a b first second third
  have hs : (Dispatch.start 10).Steps _ :=
    Relation.ReflTransGen.refl.tail (.arrive _ first) |>.tail (.read rfl rfl) |>.tail (.pass _ 10)
      |>.tail (.due rfl (by decide)) |>.tail (.enter .timer rfl rfl) |>.tail (.take .timer rfl rfl)
      |>.tail (.arrive _ second)
  have hstay {t : Dispatch} (_ : (Dispatch.start 10).Steps t) : t.Steps t := .refl
  have hs' : Dispatch.Steps _ _ :=
    (hstay hs).tail (.call (.flush 0) (by decide) rfl) |>.tail (.finish .timer rfl)
      |>.tail (.leave .timer rfl) |>.tail (.enter (.flush 0) rfl rfl) |>.tail (.arrive _ third)
      |>.tail (.take (.flush 0) rfl rfl) |>.tail (.finish (.flush 0) rfl)
      |>.tail (.leave (.flush 0) rfl)
  obtain ⟨-, -, -, -, -, hflush⟩ := dispatch_in_order 10 _ hs
  exact ⟨_, _, hs, hs', rfl, rfl, rfl, rfl, rfl, (hflush 0 _ rfl hs' rfl).2⟩

end SymbolAtlas
