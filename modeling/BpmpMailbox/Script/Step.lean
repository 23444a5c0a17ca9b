import BpmpMailbox.Mailbox
import BpmpMailbox.Soc.Firmware

/-!
# Scripted steps

A script drives one part of the transport step by step and records what each
step answered and what it left behind. This module holds the steps that make
sense on any hardware: the operations of a semaphore, of a message area and of
a bare window. Each is carried out as an action on whatever the part is laid
over.

## Main definitions

* `Reply`: The answers of steps.
* `SemaphoreStep`, `AreaStep`, `WindowStep`: The steps and what they do.
* `Report`, `runScript`: What each step of a script left behind.

## Theorems

* `runStep_ok`, `runStep_error`: The report of an action whose end is known.
* `runStep_before`: A report begins with the hardware it was started on.
-/

namespace BpmpMailbox

namespace Script

/-- What a step answered when it came to its end. -/
inductive Reply where
  /-- Nothing to tell. -/
  | done
  | flag (value : Bool)
  | size (value : Nat)
  | size? (value : Option Nat)
  | sizes (values : List Nat)
  | word (value : Word)
  | words (values : List Word)
  | code (value : Code)
  | state? (value : Option ChannelState)
  /-- Whether the channel is free, signalled, acknowledged. -/
  | query (free signalled acked : Bool)
  | flags (value : MessageFlags)
  | bytes (value : List Byte)
  /-- The size of a window, and whether it is empty. -/
  | extent (size : Nat) (isEmpty : Bool)
  /-- The number of bytes filled, and the buffer. -/
  | payload (count : Nat) (buffer : List Byte)
  /-- A response: its code and payload. -/
  | response (code : Code) (count : Nat) (buffer : List Byte)
  | message (value : Message)
  | config (value : Configuration)
  /-- The windows found by the handshake: how many, whether none, and whether
      both views of every channel are the same window. -/
  | windows (count : Nat) (isEmpty sameViews : Bool)
  deriving DecidableEq, Repr

/-- The operations of a semaphore. -/
inductive SemaphoreStep where
  | status
  | state (channel : Nat)
  | query (channel : Nat)
  | signal (channel : Nat)
  | ack (channel : Nat) (flags : MessageFlags)
  | free (channel : Nat)
  deriving DecidableEq, Repr

/-- Carry out an operation of a semaphore. -/
def SemaphoreStep.run {σ : Type} (s : Semaphore σ) : SemaphoreStep → Action σ Reply
  | .status => do
    let word ← s.status
    pure (.word word)
  | .state channel => do
    let value ← s.state? channel
    pure (.state? value)
  | .query channel => do
    let free ← s.isFree channel
    let signalled ← s.isSignalled channel
    let acked ← s.isAcknowledged channel
    pure (.query free signalled acked)
  | .signal channel => do
    s.signal channel
    pure .done
  | .ack channel flags => do
    s.acknowledge channel flags
    pure .done
  | .free channel => do
    s.release channel
    pure .done

/-- The operations of a message area. -/
inductive AreaStep where
  | code
  | setCode (code : Code)
  | flags
  | setFlags (flags : MessageFlags)
  | write (data : List Byte)
  | read (buffer : List Byte)
  deriving DecidableEq, Repr

/-- Carry out an operation of a message area. The flags are read twice, once
    for their bits and once for their names. -/
def AreaStep.run {σ : Type} (a : ChannelArea σ) : AreaStep → Action σ Reply
  | .code => do
    let value ← a.code
    pure (.code value)
  | .setCode value => do
    a.setCode value
    pure .done
  | .flags => do
    let _ ← a.flags
    let value ← a.flags
    pure (.flags value)
  | .setFlags value => do
    a.setFlags value
    pure .done
  | .write data => do
    a.writePayload data
    pure .done
  | .read buffer => do
    let (count, buffer) ← a.readPayload buffer
    pure (.payload count buffer)

/-- The operations of a bare window. -/
inductive WindowStep where
  | read (addr : Nat)
  | write (addr : Nat) (value : Word)
  | readBytes (addr count : Nat)
  | writeBytes (addr : Nat) (data : List Byte)
  deriving DecidableEq, Repr

/-- Carry out an operation of a bare window. -/
def WindowStep.run {σ : Type} (b : Bus σ) : WindowStep → Action σ Reply
  | .read addr => do
    let word ← b.read addr
    pure (.word word)
  | .write addr value => do
    b.write addr value
    pure .done
  | .readBytes addr count => do
    let bytes ← b.readBytes addr count
    pure (.bytes bytes)
  | .writeBytes addr data => do
    b.writeBytes addr data
    pure .done

/-- What one step left behind: its answer, the events meanwhile, and the
    hardware before and after. -/
structure Report (σ α : Type) where
  result : Except Stop α
  events : List Event
  before : σ
  after : σ

/-- Carry out one action on hardware with an empty journal. -/
def runStep {σ α : Type} (s : σ) (act : Action σ α) : Report σ α :=
  match act ⟨s, []⟩ with
  | .ok a w => ⟨.ok a, w.journal, s, w.hardware⟩
  | .error e w => ⟨.error e, w.journal, s, w.hardware⟩

/-- Carry out actions one after the other, each on what the one before left,
    whether that came to its end or not. -/
def runScript {σ α : Type} : σ → List (Action σ α) → List (Report σ α)
  | _, [] => []
  | s, act :: acts =>
    let report := runStep s act
    report :: runScript report.after acts

end Script

theorem runStep_ok {σ α : Type} {act : Action σ α} {s : σ} {a : α} {w : World σ}
    (h : act ⟨s, []⟩ = .ok a w) : Script.runStep s act = ⟨.ok a, w.journal, s, w.hardware⟩ := by
  simp only [Script.runStep, h]

theorem runStep_error {σ α : Type} {act : Action σ α} {s : σ} {e : Stop} {w : World σ}
    (h : act ⟨s, []⟩ = .error e w) :
    Script.runStep s act = ⟨.error e, w.journal, s, w.hardware⟩ := by
  simp only [Script.runStep, h]

@[simp] theorem runStep_before {σ α : Type} (s : σ) (act : Action σ α) :
    (Script.runStep s act).before = s := by
  unfold Script.runStep
  split <;> rfl

end BpmpMailbox
