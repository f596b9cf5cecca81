import SymbolAtlas.Service

/-!
# Runs of the service

A run is a list of operations on a service that has seen nothing. Each operation that may ask the
provider carries the provider that it asks, so what the provider answers, its failures included, may
be different at every step.
-/

namespace SymbolAtlas

/-- A provider that lists no file of the workspace twice. -/
def Provider.ListsDistinct (p : Provider) : Prop :=
  ∀ files, p.allFiles = .ok files → (files.map (·.uri)).Nodup

/-- What an editor or the clock asks of the service. -/
inductive Operation where
  | indexAll (p : Provider)
  | indexFiles (files : List FileEntry)
  | opened (p : Provider) (u : Uri) (text : String)
  | changed (p : Provider) (u : Uri) (text : String)
  | saved (p : Provider) (u : Uri) (text : Option String)
  | watched (p : Provider) (changes : List (Uri × Change))
  | definition (p : Provider) (u : Uri) (position : Position)
  | hover (p : Provider) (u : Uri) (position : Position)
  | search (query : String)
  | organizeImports (p : Provider) (u : Uri)
  | flush
  | sleep (ms : Nat)
  | shutdown

namespace Operation

/-- The service after the operation. -/
def run (s : Service) : Operation → Service
  | .indexAll p => (s.indexAll p).2
  | .indexFiles files => (s.indexFiles files).2
  | .opened p u text => s.opened p u text
  | .changed p u text => s.changed p u text
  | .saved p u text => s.saved p u text
  | .watched p changes => s.watched p changes
  | .definition p u position => (s.definition p u position).2
  | .hover p u position => (s.hover p u position).2
  | .search query => (s.search query).2
  | .organizeImports p u => (s.organizeImports p u).2
  | .flush => s.flush.2
  | .sleep ms => s.sleep ms
  | .shutdown => s.shutdown

/-- The document that the operation opens. -/
def opens? : Operation → Option Uri
  | .opened _ u _ => some u
  | _ => none

/-- A provider that the operation asks for the whole workspace lists no file twice. -/
def ListsDistinct : Operation → Prop
  | .indexAll p => p.ListsDistinct
  | _ => True

end Operation

namespace Service

/-- The service after a run. -/
def run (s : Service) (ops : List Operation) : Service := ops.foldl Operation.run s

/-- What holds at the start of a run and survives each of its operations holds at its end. -/
theorem run_induction {P : Service → Prop} {s : Service} {ops : List Operation} (hstart : P s)
    (hstep : ∀ s, ∀ op ∈ ops, P s → P (op.run s)) : P (s.run ops) := by
  rw [run]
  induction ops generalizing s with
  | nil => exact hstart
  | cons op ops ih =>
      have hfirst := hstep s op List.mem_cons_self hstart
      exact ih hfirst fun s op hop => hstep s op (List.mem_cons_of_mem _ hop)

end Service

end SymbolAtlas
