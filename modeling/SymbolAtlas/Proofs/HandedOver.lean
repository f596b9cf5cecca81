import Mathlib.Data.List.DropRight
import SymbolAtlas.Proofs.QuietWindow

/-!
# What a collector hands over

A collector is called with arrivals, with the time, or for whatever waits, in any order and with any
times. Its transcript shows what each call handed over. This module reads off a transcript which
arrivals no call has handed over yet; that is all that the collector itself remembers of its past.
So its state is a function of those arrivals, `Collector.holding`, on which the three calls act as
their rules say, and every run stays among such states.

## Main results

* `Collector.arrive_holding`, `Collector.poll_holding_of_due`, `Collector.flush_holding`: one call.
* `Collector.run_eq_holding`: a run of calls.
* `Collector.exists_segments`: no arrival is lost, and none is handed over twice.
* `hand_overs_are_complete`: what is handed over after any calls, and when.
-/

namespace SymbolAtlas

open TimedDispatch (waitingOf waitingOf_concat)

/-- A call of a collector. -/
inductive CollectorCall where
  /-- New texts and deletions arrive at a time. -/
  | arrive (a : Arrival) (now : Nat)
  /-- The collector is told the time. -/
  | poll (now : Nat)
  /-- Whatever waits is asked for. -/
  | flush

/-- The arrival that the call consists of, and its time. -/
def CollectorCall.arrival? : CollectorCall → Option (Nat × Arrival)
  | .arrive a now => some (now, a)
  | .poll _ | .flush => none

/-- Calls and what each of them handed over. -/
abbrev Transcript := List (CollectorCall × Option Batch)

namespace Transcript

/-- All arrivals, oldest first. -/
def arrivals (log : Transcript) : List (Nat × Arrival) := log.filterMap fun e => e.1.arrival?

/-- The batches that were handed over, oldest first. -/
def handed (log : Transcript) : List Batch := log.filterMap (·.2)

/-- The arrivals after the last call that handed something over. -/
def fresh (log : Transcript) : List (Nat × Arrival) :=
  arrivals (log.rtakeWhile fun e => e.2.isNone)

theorem fresh_concat_none (log : Transcript) (call : CollectorCall) :
    fresh (log ++ [(call, none)]) = fresh log ++ call.arrival?.toList := by
  rw [fresh, List.rtakeWhile_concat_pos _ _ _ rfl, arrivals, List.filterMap_append]
  cases h : call.arrival? <;> simp [fresh, arrivals, h]

theorem fresh_concat_some (log : Transcript) (call : CollectorCall) (b : Batch) :
    fresh (log ++ [(call, some b)]) = [] := by
  rw [fresh, List.rtakeWhile_concat_neg _ _ _ (by simp)]
  rfl

end Transcript

namespace Collector

/-- What the call hands over, and the collector after it. -/
def call (c : Collector) : CollectorCall → Option Batch × Collector
  | .arrive a now => (none, c.arrive a.files a.deleted now)
  | .poll now => c.poll now
  | .flush => c.flush

/-- The collector after calls. -/
def run (c : Collector) (calls : List CollectorCall) : Collector :=
  calls.foldl (fun c call => (c.call call).2) c

/-- The calls and what they hand over. -/
def transcript (c : Collector) : List CollectorCall → Transcript
  | [] => []
  | call :: calls => (call, (c.call call).1) :: (c.call call).2.transcript calls

theorem run_concat (c : Collector) (calls : List CollectorCall) (call : CollectorCall) :
    c.run (calls ++ [call]) = ((c.run calls).call call).2 := by
  rw [run, List.foldl_append]
  rfl

theorem transcript_append (c : Collector) (calls later : List CollectorCall) :
    c.transcript (calls ++ later) = c.transcript calls ++ (c.run calls).transcript later := by
  induction calls generalizing c with
  | nil => rfl
  | cons call calls ih => exact congrArg ((call, (c.call call).1) :: ·) (ih _)

theorem map_fst_transcript (c : Collector) (calls : List CollectorCall) :
    (c.transcript calls).map (·.1) = calls := by
  induction calls generalizing c with
  | nil => rfl
  | cons call calls ih => exact congrArg (call :: ·) (ih _)

/-- A transcript shows the arrivals of its calls. -/
theorem arrivals_transcript (c : Collector) (calls : List CollectorCall) :
    (c.transcript calls).arrivals = calls.filterMap CollectorCall.arrival? := by
  conv_rhs => rw [← c.map_fst_transcript calls, List.filterMap_map]
  rfl

/-! ### Single calls -/

/-- All arrivals, merged in their order. -/
def mergeAll (arrived : List (Nat × Arrival)) : Batch :=
  Arrival.batchOf (arrived.map (·.2))

/-- The collector that holds the arrivals. -/
def holding (window : Nat) (arrived : List (Nat × Arrival)) : Collector :=
  ⟨window, waitingOf window arrived⟩

/-- The last of the arrivals is at least one window ago. -/
def Due (window : Nat) (arrived : List (Nat × Arrival)) (now : Nat) : Prop :=
  ∃ latest ∈ arrived.getLast?, latest.1 + window ≤ now

variable {window : Nat} {arrived : List (Nat × Arrival)} {now : Nat}

theorem Due.ne_nil (h : Due window arrived now) : arrived ≠ [] := by
  rintro rfl
  obtain ⟨latest, hlast, -⟩ := h
  cases hlast

/-- What waits of arrivals is all of them, until one window after the last one. -/
theorem waitingOf_eq (window : Nat) (arrived : List (Nat × Arrival)) :
    waitingOf window arrived =
      arrived.getLast?.map fun latest => ⟨mergeAll arrived, latest.1 + window⟩ := by
  induction arrived using List.reverseRecOn with
  | nil => rfl
  | append_singleton earlier latest _ =>
      rw [waitingOf_concat, List.getLast?_concat, mergeAll, List.map_append]
      exact congrArg (fun b => some (Waiting.mk b _)) (Arrival.batchOf_concat _ _).symm

/-- **An arrival** is held with the others. -/
theorem arrive_holding (a : Arrival) (now : Nat) :
    (holding window arrived).arrive a.files a.deleted now =
      holding window (arrived ++ [(now, a)]) := by
  have hwaiting := (holding window arrived).waiting_arrive a.files a.deleted now
  have hmerged : ((waitingOf window arrived).map Waiting.batch).getD .empty =
      (handOver window arrived).2 := by
    rw [waitingOf]
    split
    next hnone => rw [hnone]; rfl
    next => rfl
  rw [holding, holding, waitingOf_concat]
  refine congrArg (Collector.mk window) (hwaiting.trans ?_)
  rw [holding, hmerged]

/-- **Asked for whatever it holds**, a collector hands over all of it. -/
theorem flush_holding : (holding window arrived).flush =
    (if arrived = [] then none else some (mergeAll arrived), holding window []) := by
  rw [flush, holding, waitingOf]
  split <;> rfl

/-- **Told a time at which the last arrival is due**, it hands over all of it, too. -/
theorem poll_holding_of_due (h : Due window arrived now) :
    (holding window arrived).poll now = (some (mergeAll arrived), holding window []) := by
  obtain ⟨latest, hlast, hdue⟩ := h
  rw [poll, holding, waitingOf_eq, hlast]
  exact if_pos hdue

/-- **Told any other time**, it goes on as before. -/
theorem poll_holding_of_not_due (h : ¬Due window arrived now) :
    (holding window arrived).poll now = (none, holding window arrived) := by
  rw [poll, holding, waitingOf_eq]
  cases hlast : arrived.getLast? with
  | none => rfl
  | some latest =>
      have hearly : ¬latest.1 + window ≤ now := fun hdue => h ⟨latest, hlast, hdue⟩
      exact if_neg hearly

theorem isIdle_holding : (holding window arrived).isIdle = true ↔ arrived = [] := by
  rw [isIdle, holding, waitingOf]
  split <;> simp_all

/-! ### Runs of calls -/

/-- What a call hands over is all that is held, and it is not nothing. -/
theorem eq_mergeAll_of_handed {call : CollectorCall} {b : Batch} {next : Collector}
    (h : (holding window arrived).call call = (some b, next)) :
    b = mergeAll arrived ∧ arrived ≠ [] ∧ call.arrival? = none := by
  cases call with
  | arrive a now => cases h
  | poll now =>
      by_cases hdue : Due window arrived now
      · rw [Collector.call, poll_holding_of_due hdue] at h
        cases h
        exact ⟨rfl, hdue.ne_nil, rfl⟩
      · rw [Collector.call, poll_holding_of_not_due hdue] at h
        cases h
  | flush =>
      rw [Collector.call, flush_holding] at h
      split at h
      · cases h
      next hne =>
        cases h
        exact ⟨rfl, hne, rfl⟩

/-- **One call** leaves a collector that holds what the transcript with that call leaves fresh. -/
theorem eq_holding_of_call {log : Transcript} {call : CollectorCall} {handed : Option Batch}
    {next : Collector} (h : (holding window log.fresh).call call = (handed, next)) :
    next = holding window (Transcript.fresh (log ++ [(call, handed)])) := by
  cases call with
  | arrive a now =>
      cases h
      rw [Transcript.fresh_concat_none]
      exact arrive_holding a now
  | poll now =>
      by_cases hdue : Due window log.fresh now
      · rw [Collector.call, poll_holding_of_due hdue] at h
        cases h
        rw [Transcript.fresh_concat_some]
      · rw [Collector.call, poll_holding_of_not_due hdue] at h
        cases h
        rw [Transcript.fresh_concat_none]
        exact congrArg (holding window) (List.append_nil _).symm
  | flush =>
      rw [Collector.call, flush_holding] at h
      cases h
      split
      next hnone =>
        rw [Transcript.fresh_concat_none, hnone]
        rfl
      next => rw [Transcript.fresh_concat_some]

/-- **After any calls** a collector holds the arrivals that no call has handed over. -/
theorem run_eq_holding (window : Nat) (calls : List CollectorCall) :
    (idle window).run calls = holding window ((idle window).transcript calls).fresh := by
  induction calls using List.reverseRecOn with
  | nil => rfl
  | append_singleton calls call ih =>
      rw [run_concat, transcript_append, ih]
      exact eq_holding_of_call rfl

/-- Each entry of a transcript is the call of a collector that holds what was fresh before it. -/
theorem call_of_transcript_eq {calls : List CollectorCall} {before after : Transcript}
    {call : CollectorCall} {handed : Option Batch}
    (h : (idle window).transcript calls = before ++ (call, handed) :: after) :
    ((holding window before.fresh).call call).1 = handed := by
  have hcalls : calls = before.map (·.1) ++ call :: after.map (·.1) := by
    rw [← (idle window).map_fst_transcript calls, h]
    simp
  rw [hcalls, transcript_append] at h
  have hlength : ((idle window).transcript (before.map (·.1))).length = before.length := by
    rw [← List.length_map (·.1), map_fst_transcript, List.length_map]
  obtain ⟨hbefore, hentry⟩ := List.append_inj h hlength
  rw [run_eq_holding, hbefore] at hentry
  exact congrArg Prod.snd (List.cons.inj hentry).1

/-- **Nothing is lost or handed over twice.** The arrivals are those of the batches, each of them
merged from a segment of its own, and then those that no call has handed over. -/
theorem exists_segments (window : Nat) (calls : List CollectorCall) :
    let log := (idle window).transcript calls
    ∃ segments : List (List (Nat × Arrival)), (∀ segment ∈ segments, segment ≠ []) ∧
      log.handed = segments.map mergeAll ∧ log.arrivals = segments.flatten ++ log.fresh := by
  induction calls using List.reverseRecOn with
  | nil => exact ⟨[], nofun, rfl, rfl⟩
  | append_singleton calls call ih =>
      obtain ⟨segments, hne, hhanded, harrivals⟩ := ih
      rw [transcript_append, run_eq_holding]
      generalize (idle window).transcript calls = log at hhanded harrivals ⊢
      cases hcall : (holding window log.fresh).call call with
      | mk handed next =>
          simp only [transcript, hcall, Transcript.handed, Transcript.arrivals,
            List.filterMap_append] at hhanded harrivals ⊢
          cases handed with
          | none =>
              refine ⟨segments, hne, by simpa using hhanded, ?_⟩
              rw [Transcript.fresh_concat_none, harrivals, List.append_assoc]
              cases h : call.arrival? <;> simp [h]
          | some b =>
              -- the fresh arrivals become a segment
              obtain ⟨rfl, hfresh, hother⟩ := eq_mergeAll_of_handed hcall
              refine ⟨segments ++ [log.fresh], ?_, by simp [hhanded], ?_⟩
              · exact List.forall_mem_append.mpr ⟨hne, List.forall_mem_singleton.mpr hfresh⟩
              · simp [Transcript.fresh_concat_some, harrivals, hother]

end Collector

/-- **A collector hands over exactly what arrived, once and not early.** After any calls with any
times, with `fresh` for the arrivals that came after the last call that handed something over:
* told the time, it hands something over exactly if there are fresh arrivals and the last of them is
  at least one window ago, and this is all of them, merged in their order; if it hands nothing over
  it is as it was;
* asked for whatever waits, it hands something over exactly if there are fresh arrivals, and this is
  all of them, merged in their order;
* it is idle exactly if there are none;
* whatever any earlier call handed over was all that was fresh at that time, and not nothing;
* so the arrivals fall into segments, one for each batch handed over, and the fresh ones. -/
theorem hand_overs_are_complete (window : Nat) (calls : List CollectorCall) :
    let c := (Collector.idle window).run calls
    let log := (Collector.idle window).transcript calls
    let merged := Arrival.batchOf (log.fresh.map (·.2))
    (∀ now, ((c.poll now).1.isSome = true ↔
          ∃ latest ∈ log.fresh.getLast?, latest.1 + window ≤ now) ∧
        (∀ b ∈ (c.poll now).1, b = merged) ∧
        ((c.poll now).1 = none → (c.poll now).2 = c)) ∧
      ((c.flush.1.isSome = true ↔ log.fresh ≠ []) ∧ ∀ b ∈ c.flush.1, b = merged) ∧
      (c.isIdle = true ↔ log.fresh = []) ∧
      (∀ (before : Transcript) call b after, log = before ++ (call, some b) :: after →
        b = Arrival.batchOf (before.fresh.map (·.2)) ∧ before.fresh ≠ []) ∧
      ∃ segments : List (List (Nat × Arrival)), (∀ segment ∈ segments, segment ≠ []) ∧
        log.handed = segments.map (fun segment => Arrival.batchOf (segment.map (·.2))) ∧
        calls.filterMap CollectorCall.arrival? = segments.flatten ++ log.fresh := by
  intro c log merged
  have hc : c = Collector.holding window log.fresh := Collector.run_eq_holding window calls
  refine ⟨fun now => ?_, ?_, ?_, ?_, ?_⟩
  · by_cases hdue : Collector.Due window log.fresh now
    · rw [hc, Collector.poll_holding_of_due hdue]
      exact ⟨iff_of_true rfl hdue, fun b hb => (Option.some.inj hb).symm, nofun⟩
    · rw [hc, Collector.poll_holding_of_not_due hdue]
      exact ⟨iff_of_false nofun hdue, nofun, fun _ => rfl⟩
  · rw [hc, Collector.flush_holding]
    split
    next hnone => exact ⟨iff_of_false nofun (not_not.mpr hnone), nofun⟩
    next hne => exact ⟨iff_of_true rfl hne, fun b hb => (Option.some.inj hb).symm⟩
  · rw [hc]
    exact Collector.isIdle_holding
  · intro before call b after hlog
    have hhanded := Collector.call_of_transcript_eq hlog
    obtain ⟨hmerged, hne, -⟩ := Collector.eq_mergeAll_of_handed (Prod.ext hhanded rfl)
    exact ⟨hmerged, hne⟩
  · obtain ⟨segments, hne, hhanded, harrivals⟩ := Collector.exists_segments window calls
    exact ⟨segments, hne, hhanded, (Collector.arrivals_transcript _ calls).symm.trans harrivals⟩

/-- After a flush two arrivals come, the second one with an earlier time. That time decides: the
collector is asked just before its window has passed and then at its end, when that of the first one
has not passed. -/
theorem hand_overs_are_complete_backdated :
    let a : Arrival := ⟨[⟨⟨"file:///a"⟩, "a", "class Foo"⟩], []⟩
    let b : Arrival := ⟨[], [⟨"file:///a"⟩]⟩
    let calls : List CollectorCall := [.arrive b 10, .flush, .arrive a 300, .arrive b 100]
    let c := (Collector.idle 150).run calls
    (c.poll 249).1 = none ∧ (c.poll 249).2 = c ∧
      (c.poll 250).1 = some (Arrival.batchOf [a, b]) ∧ c.isIdle = false := by
  intro a b calls c
  obtain ⟨hpoll, -, hidle, -⟩ := hand_overs_are_complete 150 calls
  obtain ⟨hearly, -, hsame⟩ := hpoll 249
  obtain ⟨hdue, hmerged, -⟩ := hpoll 250
  have hfresh : ((Collector.idle 150).transcript calls).fresh = [(300, a), (100, b)] := rfl
  rw [hfresh] at hearly hdue hmerged hidle
  have hnone : (c.poll 249).1 = none := by
    refine Option.not_isSome_iff_eq_none.mp fun hsome => ?_
    obtain ⟨latest, hlast, htime⟩ := hearly.mp hsome
    cases hlast
    exact absurd htime (by decide)
  obtain ⟨batch, hbatch⟩ := Option.isSome_iff_exists.mp (hdue.mpr ⟨(100, b), rfl, by decide⟩)
  refine ⟨hnone, hsame hnone, ?_, Bool.eq_false_iff.mpr fun h => nomatch hidle.mp h⟩
  rw [hbatch, hmerged batch hbatch]
  rfl

end SymbolAtlas
