import BpmpMailbox.Hardware.WordWindow
import BpmpMailbox.Script.Step

/-!
# Test benches

Small pieces of hardware on which one part of the transport can be tried by
itself: a register with a set and a clear port, memory that knows only words,
a window over memory, and doorbells that take down who rang and what was
installed. Each bench turns a list of steps into reports.

## Main definitions

* `PortRegister`: A word with a set and a clear port and bits that do not change.
* `plainWords`: Memory reached by words alone.
* `Recorder`: Doorbells that take down what happens.
* `semaphoreBench`, `areaBench`, `windowBench`, `notifierBench`, `bindingBench`: The benches.
-/

namespace BpmpMailbox

namespace Script

/-- A word with a set and a clear port. The bits of `fixed` never change. -/
structure PortRegister where
  word : Word
  fixed : Word
  deriving DecidableEq, Repr

namespace PortRegister

/-- The register after a write. -/
def write (r : PortRegister) (addr : Nat) (value : Word) : PortRegister :=
  let next :=
    if addr = setPort then r.word ||| value
    else if addr = clearPort then r.word &&& ~~~value
    else r.word
  { r with word := (next &&& ~~~r.fixed) ||| (r.word &&& r.fixed) }

/-- The register as a bus that notes each access. -/
def bus : Bus PortRegister :=
  (Bus.ofWords
    (fun addr => do
      let r ← hardware
      pure (if addr = statusPort then r.word else 0#32))
    (fun addr value => setHardware (·.write addr value))).noted ⟨.semaphore, 0⟩

end PortRegister

/-- The steps of the semaphore bench: an operation, or a write from the other
    side. -/
inductive RegisterStep where
  | operation (step : SemaphoreStep)
  | remote (addr : Nat) (value : Word)
  deriving DecidableEq, Repr

/-- Carry out a step of the semaphore bench. -/
def RegisterStep.run : RegisterStep → Action PortRegister Reply
  | .operation step => step.run ⟨PortRegister.bus⟩
  | .remote addr value => do
    PortRegister.bus.write addr value
    pure .done

/-- Try a semaphore over a register. -/
def semaphoreBench (word fixed : Word) (steps : List RegisterStep) :
    List (Report PortRegister Reply) :=
  runScript ⟨word, fixed⟩ (steps.map RegisterStep.run)

/-- Memory reached by words alone; each word access is noted, and byte copies
    go through noted words. -/
def plainWords (size : Nat) : Bus (Memory size) :=
  let words : Bus (Memory size) :=
    (Bus.ofWords
      (fun addr => do
        let m ← hardware
        pure (m.loadWord addr))
      (fun addr value => setHardware (·.storeWord addr value))).noted ⟨.dram 0 size, 0⟩
  Bus.ofWords words.read words.write

/-- The memory under a message area before the first step: `content` comes first. -/
def areaMemory (content : List Byte) : Memory messageSize :=
  (Memory.zero messageSize).store 0 content

/-- Try a message area over words alone. -/
def areaBench (content : List Byte) (steps : List AreaStep) :
    List (Report (Memory messageSize) Reply) :=
  runScript (areaMemory content)
    (steps.map fun step => step.run ⟨plainWords messageSize⟩)

/-- The memory under a window before the first step: `content` comes first, as
    far as whole words reach. -/
def windowMemory (size : Nat) (content : List Byte) : Memory size :=
  (Memory.zero size).store 0 (content.take (WordWindow.wholeWords size))

/-- The steps of the window bench. -/
inductive MappedStep where
  /-- How large the window is. -/
  | extent
  /-- Whether the window begins where it was placed. -/
  | inPlace
  | access (step : WindowStep)
  deriving DecidableEq, Repr

/-- Carry out a step of the window bench. -/
def MappedStep.run (size : Nat) : MappedStep → Action (Memory size) Reply
  | .extent => pure (.extent size (size == 0))
  | .inPlace => pure (.flag true)
  | .access step => step.run (WordWindow.bus size)

/-- Try a window over memory. -/
def windowBench (size : Nat) (content : List Byte) (steps : List MappedStep) :
    List (Report (Memory size) Reply) :=
  runScript (windowMemory size content) (steps.map (MappedStep.run size))

/-- Doorbells that take down what happens. -/
structure Recorder where
  rings : List Word
  bound : List (Nat × Binding)
  /-- The channels for which a handler was called. -/
  handled : List Nat
  /-- The core whose handlers are refused, and the error given. -/
  refusal : Option (Nat × DoorbellError)
  deriving DecidableEq, Repr

namespace Recorder

/-- Install a handler: refused for one core, and accepted as often as it comes
    for the others. -/
def register (core : Nat) (binding : Binding) : Action Recorder (Except DoorbellError Unit) := do
  let r ← hardware
  match r.refusal with
  | some (refused, error) => if refused = core then pure (.error error) else accept
  | none => accept
where
  /-- Take the binding down. -/
  accept : Action Recorder (Except DoorbellError Unit) := do
    setHardware fun r => { r with bound := r.bound ++ [(core, binding)] }
    pure (.ok ())

/-- The recorder as doorbells. -/
def doorbells : Doorbells Recorder where
  ring line := setHardware fun r => { r with rings := r.rings ++ [line] }
  register := register

/-- The bindings taken down for a core. -/
def bindings (r : Recorder) (core : Nat) : List Binding :=
  r.bound.filterMap fun (c, binding) => if c = core then some binding else none

end Recorder

/-- The steps of the notifier bench. -/
inductive NotifierStep where
  | line
  | ring (channel : Nat)
  | installAll
  /-- Call every handler taken down for a core. -/
  | fire (core : Nat)
  deriving DecidableEq, Repr

/-- Carry out a step of the notifier bench. -/
def NotifierStep.run (n : Notifier Recorder) : NotifierStep → Action Recorder Reply
  | .line => pure (.word n.line)
  | .ring channel => do
    n.ring channel
    pure .done
  | .installAll => do
    n.installAll ⟨.record, none⟩
    pure .done
  | .fire core => do
    let r ← hardware
    let bindings := r.bindings core
    setHardware fun r => { r with handled := r.handled ++ bindings.map (·.channel) }
    pure (.size bindings.length)

/-- Try a notifier over a recorder. -/
def notifierBench (line : Word) (refusal : Option (Nat × DoorbellError))
    (steps : List NotifierStep) : List (Report Recorder Reply) :=
  runScript ⟨[], [], [], refusal⟩ (steps.map (NotifierStep.run ⟨Recorder.doorbells, line⟩))

/-- Call the handler of a binding again and again, and tell the channels it was
    called with. -/
def bindingBench (channel times : Nat) : List Nat :=
  let b : Binding := ⟨⟨.record, none⟩, channel⟩
  let calls : Action Unit Unit :=
    (List.replicate times b).forM fun b => note (.handled b.handler b.channel .recorded)
  (Event.deliveries (runStep () calls).events).map (·.1)

end Script

end BpmpMailbox
