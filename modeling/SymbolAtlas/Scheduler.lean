import SymbolAtlas.Collector

/-!
# The scheduler

A collector with a clock and a timer. While the timer runs, the waiting batch is handed over when
the clock reaches its deadline; once the timer is stopped, later arrivals wait until someone asks
for them.
-/

namespace SymbolAtlas

/-- A collector, the time, and whether the timer runs. -/
structure Scheduler where
  collector : Collector
  now : Nat
  running : Bool

namespace Scheduler

/-- A scheduler that starts at time zero. -/
def start (window : Nat) : Scheduler := ⟨.idle window, 0, true⟩

/-- Takes in a change; an arrival without files and deletions is none. -/
def schedule (s : Scheduler) (files : List FileEntry) (deleted : List Uri) : Scheduler :=
  if files.isEmpty && deleted.isEmpty then s
  else { s with collector := s.collector.arrive files deleted s.now }

/-- Hands over whatever waits, on demand. -/
def take (s : Scheduler) : Option Batch × Scheduler :=
  let (batch, collector) := s.collector.flush
  (batch, { s with collector })

/-- Something waits. -/
def hasPending (s : Scheduler) : Bool := !s.collector.isIdle

/-- Moves the clock while the timer is kept out. -/
def pass (s : Scheduler) (ms : Nat) : Scheduler := { s with now := s.now + ms }

/-- Lets the timer hand over what is due. -/
def settle (s : Scheduler) : Option Batch × Scheduler :=
  if s.running then
    let (batch, collector) := s.collector.poll s.now
    (batch, { s with collector })
  else (none, s)

/-- Stops the timer. -/
def stop (s : Scheduler) : Scheduler := { s with running := false }

end Scheduler

end SymbolAtlas
