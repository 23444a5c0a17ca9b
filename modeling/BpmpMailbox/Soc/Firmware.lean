import BpmpMailbox.Soc.Interrupt

/-!
# The firmware side

What the firmware does to the semaphore word and to the channel areas. On
outbound channels it is the slave and only sets bits; on inbound channels it
is the master and only clears them. It reaches the areas directly in memory,
at the addresses that are published, and asks nobody whether it is its turn.

## Main definitions

* `Message`: A message as it lies in an area.
* `Firmware.message`, `Firmware.writeMessage`: Read or write a channel's area.
* `Firmware.queue`, `Firmware.complete`: The slave's steps on an outbound channel.
* `Firmware.post`, `Firmware.release`: The master's steps on an inbound channel.
-/

namespace BpmpMailbox

/-- A message as it lies in a channel area, the whole payload included. -/
structure Message where
  code : Code
  flags : MessageFlags
  data : List Byte
  deriving DecidableEq, Repr

/-- The message in the bytes of an area. -/
def Message.ofBytes (bytes : List Byte) : Message where
  code := Word.ofBytes (bytes.take 4)
  flags := ⟨Word.ofBytes ((bytes.drop flagsOffset).take 4)⟩
  data := (bytes.drop payloadOffset).take payloadSize

namespace Firmware

/-- The message in the area of a channel. -/
def message (channel : Nat) : Action Soc Message := do
  let s ← hardware
  let start ← Action.ofExcept (s.areaOffset channel)
  let bytes ← Soc.dramLoad start messageSize
  pure (.ofBytes bytes)

/-- Write a message into the area of a channel: code, then flags, then payload. -/
def writeMessage (channel : Nat) (code : Code) (flags : MessageFlags) (data : List Byte) :
    Action Soc Unit := do
  if data.length ≤ payloadSize then
    let s ← hardware
    let start ← Action.ofExcept (s.areaOffset channel)
    Soc.dramStore (start + codeOffset) (Word.toBytes code)
    Soc.dramStore (start + flagsOffset) (Word.toBytes flags.bits)
    Soc.dramStore (start + payloadOffset) data
  else fault .firmwarePayloadTooLarge

/-- Take up a request: from signalled to queued. -/
def queue (channel : Nat) : Action Soc Unit :=
  setHardware (·.setBits (ChannelState.queued.bits channel))

/-- Write the response to a request under the request's flags and acknowledge it. -/
def complete (channel : Nat) (code : Code) (data : List Byte) : Action Soc Unit := do
  let request ← message channel
  writeMessage channel code request.flags data
  setHardware (·.setBits (ChannelState.acknowledged.bits channel))

/-- Post a request to a core, hand its inbound channel over and raise its
    doorbell. Tells whether a handler took it. -/
def post (mailbox? : Nat → Option Mailbox) (core : Nat) (code : Code) (flags : MessageFlags)
    (data : List Byte) : Action Soc Bool := do
  let channel ← Action.ofExcept (inboundIndex core)
  writeMessage channel code flags data
  setHardware (·.clearBits (fieldMask channel))
  Soc.fire mailbox? core

/-- Free an inbound channel once its response was read. -/
def release (channel : Nat) : Action Soc Unit :=
  setHardware (·.clearBits
    (ChannelState.acknowledged.bits channel ^^^ ChannelState.free.bits channel))

end Firmware

end BpmpMailbox
