import BpmpMailbox.Hardware.Bus

/-!
# Message areas

Every channel has a window of memory that holds one message at a time: a code,
a flags word and up to 120 bytes of payload. Requests and responses use the
same window, and the state of the channel says whose turn it is to write.

The length of a payload is not stored. A payload that is shorter than the one
before it leaves the rest of the old one in place, and a reader takes as many
bytes as its buffer holds.

## Main definitions

* `messageSize`, `payloadSize`: The sizes of a message and of its payload.
* `ChannelArea`: The operations on one window.
* `ChannelArea.code`, `ChannelArea.flags`: The header.
* `ChannelArea.writePayload`, `ChannelArea.readPayload`: The payload.
-/

namespace BpmpMailbox

/-- The size of a message in bytes. -/
def messageSize : Nat := 128

/-- The most bytes one message carries. -/
def payloadSize : Nat := 120

/-- Where the code of a message lies. -/
def codeOffset : Nat := 0x00

/-- Where the flags of a message lie. -/
def flagsOffset : Nat := 0x04

/-- Where the payload of a message begins. -/
def payloadOffset : Nat := 0x08

/-- One channel's message window behind a bus. -/
structure ChannelArea (σ : Type) where
  window : Bus σ

namespace ChannelArea

variable {σ : Type}

/-- The code of the message. -/
def code (a : ChannelArea σ) : Action σ Code := a.window.read codeOffset

/-- Replace the code of the message. -/
def setCode (a : ChannelArea σ) (code : Code) : Action σ Unit := a.window.write codeOffset code

/-- The flags of the message, unknown bits included. -/
def flags (a : ChannelArea σ) : Action σ MessageFlags := do
  let word ← a.window.read flagsOffset
  pure ⟨word⟩

/-- Replace the flags of the message. -/
def setFlags (a : ChannelArea σ) (flags : MessageFlags) : Action σ Unit :=
  a.window.write flagsOffset flags.bits

/-- Replace the first bytes of the payload, or refuse what one message cannot carry. -/
def writePayload (a : ChannelArea σ) (data : List Byte) : Action σ Unit :=
  if data.length ≤ payloadSize then a.window.writeBytes payloadOffset data
  else refuse (.payloadTooLarge data.length payloadSize)

/-- Fill a buffer with payload bytes from its start, as many as there are in a
    message, and tell how many that were. The rest of the buffer is kept. -/
def readPayload (a : ChannelArea σ) (buffer : List Byte) : Action σ (Nat × List Byte) := do
  let count := min buffer.length payloadSize
  let bytes ← a.window.readBytes payloadOffset count
  pure (count, bytes ++ buffer.drop count)

end ChannelArea

end BpmpMailbox
