import SymbolAtlas.Text.Quoted

/-!
# Usage reports

What the service reports about its work: that something happened, with a count where there is one,
and how long it took. A reporter passes reports on only while it is enabled and knows which client
it speaks for.
-/

namespace SymbolAtlas

/-- A report. -/
inductive Report where
  | event (category action : String) (label : Option String) (value : Option Nat)
  | timing (category action : String) (micros : Nat)
  deriving DecidableEq, Repr

/-- A finished piece of work, with the number of its results if it has any. -/
structure Measurement where
  category : String
  action : String
  results : Option Nat
  deriving DecidableEq, Repr

/-- The reports of a finished piece of work that took `micros` microseconds. -/
def Measurement.reports (m : Measurement) (micros : Nat) : List Report :=
  [match m.results with
    | some n => .event m.category m.action (some "results") (some n)
    | none => .event m.category m.action none none,
   .timing m.category m.action micros]

/-- Whether reports are passed on, and for which client. -/
structure Reporter where
  enabled : Bool
  client : Option String
  deriving DecidableEq, Repr, Inhabited

/-- A report that was passed on for a client. -/
structure Trace where
  client : String
  report : Report
  deriving DecidableEq, Repr

/-- What becomes of a report. -/
def Reporter.trace? (r : Reporter) (report : Report) : Option Trace :=
  if r.enabled then r.client.map fun client => ⟨client, report⟩ else none

/-- The text of an optional value in a trace. -/
def Trace.optionText : Option String → String
  | none => "None"
  | some text => "Some(" ++ text ++ ")"

/-- The text of a label in a trace. -/
def Trace.labelText (label : Option String) : String := optionText (label.map Text.quoted)

/-- The text of a value in a trace. -/
def Trace.valueText (value : Option Nat) : String := optionText (value.map toString)

/-- Whole milliseconds. -/
def Trace.millis (micros : Nat) : Nat := micros / 1000

end SymbolAtlas
