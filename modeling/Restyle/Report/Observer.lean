import Restyle.Report.Console

/-!
# Observers of the progress

An observer is told each event as it happens. One keeps the events, one shows them on the console,
and one ignores them.

## Main definitions

* `Restyle.Observer`, `Restyle.Stage.observed`.
* `Restyle.Observer.recorder`, `Restyle.Observer.printer`, `Restyle.Observer.silent`.
-/

namespace Restyle

/-- An observer with a state of its own, which changes with each event. -/
structure Observer (σ : Type) where
  initial : σ
  tell : σ → Event → σ

/-- The state of an observer after a stage of the work. -/
def Stage.observed {α σ : Type} (s : Stage α) (o : Observer σ) : σ :=
  s.events.foldl o.tell o.initial

namespace Observer

/-- Keeps the events in order. -/
def recorder : Observer (List Event) where
  initial := []
  tell seen e := seen ++ [e]

/-- Shows each event on a console. -/
def printer (c : Console) : Observer String where
  initial := ""
  tell shown e := shown ++ c.event e

/-- Ignores the events. -/
def silent : Observer String where
  initial := ""
  tell shown _ := shown

end Observer

end Restyle
