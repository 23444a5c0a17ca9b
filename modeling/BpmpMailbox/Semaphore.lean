import BpmpMailbox.Hardware.Bus
import BpmpMailbox.Channel.State

/-!
# The semaphore

The states of all channels lie in one word of a register block. The word is
read at one address and never written there: writing to a second address sets
the bits that are one in the value, writing to a third clears them, and the
hardware does each as one step. So two sides can change the word without
reading it first, as long as each only sets or only clears.

The slave sets and the master clears. The one exception is the release of an
acknowledged channel, which clears the low bit of a field that is all ones. It
is sound in that state alone, because there the other side never sets a bit,
so a release looks first and is a fault otherwise.

An index past the last channel has no field. Questions about it are answered
without touching the register, and changes are dropped with a warning.

## Main definitions

* `Semaphore`: The operations on a register block.
* `Semaphore.status`, `Semaphore.state?`: The word, and the state of a channel.
* `Semaphore.isFree`, `Semaphore.isSignalled`, `Semaphore.isAcknowledged`: Questions.
* `Semaphore.signal`, `Semaphore.acknowledge`, `Semaphore.release`: Changes of state.
-/

namespace BpmpMailbox

/-- The address where the semaphore word is read. -/
def statusPort : Nat := 0x0

/-- The address where bits of the semaphore word are set. -/
def setPort : Nat := 0x4

/-- The address where bits of the semaphore word are cleared. -/
def clearPort : Nat := 0x8

/-- A semaphore register block behind a bus. -/
structure Semaphore (σ : Type) where
  registers : Bus σ

namespace Semaphore

variable {σ : Type}

/-- The whole word, not zero once the firmware has published the handshake. -/
def status (s : Semaphore σ) : Action σ Word := s.registers.read statusPort

/-- The field of a channel in its place, nothing past the last channel. -/
def field? (s : Semaphore σ) (channel : Nat) : Action σ (Option Word) :=
  if channel < channelCount then do
    let word ← s.status
    pure (some (word &&& fieldMask channel))
  else pure none

/-- The state of a channel, nothing past the last channel. -/
def state? (s : Semaphore σ) (channel : Nat) : Action σ (Option ChannelState) := do
  let field ← s.field? channel
  pure (field.map fun (w : Word) => .ofCode (w >>> fieldShift channel))

/-- Whether a channel is in a given state. -/
def inState (s : Semaphore σ) (channel : Nat) (state : ChannelState) : Action σ Bool := do
  let field ← s.field? channel
  pure (field == some (state.bits channel))

/-- Whether a channel is free for the master. -/
def isFree (s : Semaphore σ) (channel : Nat) : Action σ Bool := s.inState channel .free

/-- Whether a channel waits for its slave. -/
def isSignalled (s : Semaphore σ) (channel : Nat) : Action σ Bool :=
  s.inState channel .signalled

/-- Whether a channel holds an acknowledged response. -/
def isAcknowledged (s : Semaphore σ) (channel : Nat) : Action σ Bool :=
  s.inState channel .acknowledged

/-- Set bits inside the field of a channel. -/
def setBits (s : Semaphore σ) (channel : Nat) (bits : Word) : Action σ Unit :=
  if bits &&& ~~~fieldMask channel = 0#32 then s.registers.write setPort bits
  else fault (.setOutsideField channel)

/-- Clear bits inside the field of a channel. -/
def clearBits (s : Semaphore σ) (channel : Nat) (bits : Word) : Action σ Unit :=
  if bits &&& ~~~fieldMask channel = 0#32 then s.registers.write clearPort bits
  else fault (.clearOutsideField channel)

/-- Carry out a change on a channel, or warn that there is no such channel. -/
def onChannel (change : StateChange) (channel : Nat) (act : Action σ Unit) : Action σ Unit :=
  if channel < channelCount then act else log (.changeIgnored change channel)

/-- Hand a channel to its slave by clearing its whole field. -/
def signal (s : Semaphore σ) (channel : Nat) : Action σ Unit :=
  onChannel .signal channel do
    log (.signalled channel)
    s.clearBits channel (fieldMask channel)

/-- Free an acknowledged channel by clearing the low bit of its field. It is a
    fault when the channel is in any other state. -/
def release (s : Semaphore σ) (channel : Nat) : Action σ Unit :=
  onChannel .release channel do
    let state ← s.state? channel
    if state = some .acknowledged then
      log (.released channel)
      s.clearBits channel
        (ChannelState.acknowledged.bits channel ^^^ ChannelState.free.bits channel)
    else fault (.releaseOutsideAck channel)

/-- Acknowledge the response on a channel. A requester that does not ask to see
    the acknowledgement has the channel freed at once. -/
def acknowledge (s : Semaphore σ) (channel : Nat) (flags : MessageFlags) : Action σ Unit :=
  onChannel .acknowledge channel do
    log (.acknowledged channel flags)
    s.setBits channel (ChannelState.acknowledged.bits channel)
    if flags.contains .doAck then pure () else s.release channel

end Semaphore

end BpmpMailbox
