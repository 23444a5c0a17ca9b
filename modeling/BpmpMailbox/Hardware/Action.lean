import BpmpMailbox.Hardware.Call
import BpmpMailbox.Hardware.Handler
import BpmpMailbox.LogRecord

/-!
# Actions

An action changes the state of some hardware, leaves events in a journal, and
ends with a result or with a stop. The hardware is a parameter: an action over
`σ` works on any machine whose state is a `σ`, which is how one definition of
the semaphore serves every register it may be laid over.

A stop keeps the state. What an action changed before it stopped remains
changed, both in the hardware and in the journal. There are two kinds of stop:
a refusal, which callers answer with, and a fault, which nobody answers for.
`attempt` turns refusals into results and lets faults through.

The journal only grows, and it holds everything that can be seen of a run
besides its result: log records, hardware calls in the order in which they
arrived, and calls of interrupt handlers.

## Main definitions

* `Stop`: A refusal or a fault.
* `Event`: One entry of the journal.
* `World`: The hardware with the journal.
* `Action`: State-keeping computations over a `World`.
* `note`, `log`: Append to the journal.
* `refuse`, `fault`, `attempt`: Stop, or survive a refusal.

## Theorems

* `note_run`, `log_run`, `refuse_run`, `fault_run`: What the primitives do to a world.
-/

namespace BpmpMailbox

/-- The two ways to end without a result. -/
inductive Stop where
  | refused (error : Refusal)
  | fault (fault : Fault)
  deriving DecidableEq, Repr

/-- One entry of the journal. -/
inductive Event where
  /-- A log record. -/
  | log (record : LogRecord)
  /-- A hardware call, noted before it is carried out. -/
  | call (call : HardwareCall)
  /-- A call of an interrupt handler, noted when it is over. -/
  | handled (handler : Handler) (channel : Nat) (outcome : Outcome)
  deriving DecidableEq, Repr

/-- Hardware of state `σ` together with the journal of what happened. -/
structure World (σ : Type) where
  hardware : σ
  journal : List Event

/-- Computations that change a world and end with an `α` or a stop. -/
abbrev Action (σ α : Type) := EStateM Stop (World σ) α

section Primitives

variable {σ α : Type}

/-- Append an event to the journal. -/
def note (e : Event) : Action σ Unit := fun w =>
  .ok () { w with journal := w.journal ++ [e] }

/-- Append a log record to the journal. -/
def log (r : LogRecord) : Action σ Unit := note (.log r)

/-- Stop with a refusal. -/
def refuse (e : Refusal) : Action σ α := fun w => .error (.refused e) w

/-- Stop with a fault. -/
def fault (f : Fault) : Action σ α := fun w => .error (.fault f) w

/-- The result of a computation, or the fault it ended with. -/
def Action.ofExcept : Except Fault α → Action σ α
  | .ok a => pure a
  | .error f => fault f

/-- The state of the hardware. -/
def hardware : Action σ σ := fun w => .ok w.hardware w

/-- Change the state of the hardware. -/
def setHardware (f : σ → σ) : Action σ Unit := fun w =>
  .ok () { w with hardware := f w.hardware }

/-- The result of an action or its refusal; faults still stop. -/
def attempt (a : Action σ α) : Action σ (Except Refusal α) := fun w =>
  match a w with
  | .ok r w => .ok (.ok r) w
  | .error (.refused e) w => .ok (.error e) w
  | .error (.fault f) w => .error (.fault f) w

@[simp] theorem note_run (e : Event) (w : World σ) :
    note e w = .ok () { w with journal := w.journal ++ [e] } := rfl

@[simp] theorem log_run (r : LogRecord) (w : World σ) :
    log r w = .ok () { w with journal := w.journal ++ [.log r] } := rfl

@[simp] theorem refuse_run (e : Refusal) (w : World σ) :
    (refuse e : Action σ α) w = .error (.refused e) w := rfl

@[simp] theorem fault_run (f : Fault) (w : World σ) :
    (fault f : Action σ α) w = .error (.fault f) w := rfl

@[simp] theorem hardware_run (w : World σ) : hardware w = .ok w.hardware w := rfl

@[simp] theorem setHardware_run (f : σ → σ) (w : World σ) :
    setHardware f w = .ok () { w with hardware := f w.hardware } := rfl

end Primitives

/-- The log records among some events. -/
def Event.records (events : List Event) : List LogRecord :=
  events.filterMap fun
    | .log r => some r
    | _ => none

/-- The hardware calls among some events. -/
def Event.calls (events : List Event) : List HardwareCall :=
  events.filterMap fun
    | .call c => some c
    | _ => none

/-- The calls of interrupt handlers among some events, with their outcomes. -/
def Event.deliveries (events : List Event) : List (Nat × Outcome) :=
  events.filterMap fun
    | .handled _ channel outcome => some (channel, outcome)
    | _ => none

end BpmpMailbox
