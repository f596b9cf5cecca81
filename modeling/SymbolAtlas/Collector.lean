import SymbolAtlas.Batch

/-!
# Collecting a burst of changes

A collector gathers arrivals into one batch until things have been quiet for a while: every arrival
moves the deadline to one window after itself. Times are milliseconds since an arbitrary origin.
-/

namespace SymbolAtlas

/-- A batch that waits, and the time from which on it may be handed over. -/
structure Waiting where
  batch : Batch
  deadline : Nat

/-- The length of the quiet window, and the batch that waits for its end. -/
structure Collector where
  window : Nat
  waiting : Option Waiting

namespace Collector

/-- A collector with nothing waiting. -/
def idle (window : Nat) : Collector := ⟨window, none⟩

/-- Takes an arrival in at the time `now`. -/
def arrive (c : Collector) (files : List FileEntry) (deleted : List Uri) (now : Nat) :
    Collector :=
  let batch := match c.waiting with
    | none => Batch.empty
    | some w => w.batch
  { c with waiting := some ⟨batch.merge files deleted, now + c.window⟩ }

/-- The time from which on the waiting batch may be handed over. -/
def deadline? (c : Collector) : Option Nat := c.waiting.map (·.deadline)

/-- Nothing waits. -/
def isIdle (c : Collector) : Bool := c.waiting.isNone

/-- Hands over whatever waits. -/
def flush (c : Collector) : Option Batch × Collector :=
  (c.waiting.map (·.batch), { c with waiting := none })

/-- Hands over what waits if its deadline has come. -/
def poll (c : Collector) (now : Nat) : Option Batch × Collector :=
  match c.waiting with
  | none => (none, c)
  | some w => if w.deadline ≤ now then c.flush else (none, c)

end Collector

end SymbolAtlas
