import BpmpMailbox.Channel

/-!
# Channel states in a packed word

Every channel is in one of four states, and the states of all channels lie
packed in one word, two bits each, channel 0 lowest. A state has a two-bit
code, its `bits` are the code moved to the channel's field, and `fieldMask` is
the field itself. An index past the last channel has no field: its bits and
its mask are zero, so that or-ing or clearing them changes nothing.

## Main definitions

* `ChannelState`: The four states of a channel.
* `ChannelState.code`, `ChannelState.ofCode`: The two-bit code and back.
* `ChannelState.bits`: A state in a channel's field.
* `fieldMask`: The field of a channel.

## Theorems

* `ChannelState.ofCode_code`: The code of a state decodes to it.
* `ChannelState.bits_of_le`, `fieldMask_of_le`: There is no field past the last channel.
-/

namespace BpmpMailbox

/-- The protocol state of one channel. -/
inductive ChannelState where
  /-- `SL_SIGL`: the slave has been signalled. -/
  | signalled
  /-- `SL_QUED`: the slave has queued the request. -/
  | queued
  /-- `MA_FREE`: the channel is free for the master. -/
  | free
  /-- `MA_ACKD`: the response has been acknowledged. -/
  | acknowledged
  deriving DecidableEq, Repr

namespace ChannelState

/-- The two-bit code of a state. -/
def code : ChannelState → Word
  | .signalled => 0b00#32
  | .queued => 0b01#32
  | .free => 0b10#32
  | .acknowledged => 0b11#32

/-- The state whose code is in the low two bits of a word. -/
def ofCode (w : Word) : ChannelState :=
  if w &&& 0b11#32 = 0b00#32 then .signalled
  else if w &&& 0b11#32 = 0b01#32 then .queued
  else if w &&& 0b11#32 = 0b10#32 then .free
  else .acknowledged

/-- The name of a state as a constant. -/
def name : ChannelState → String
  | .signalled => "SlaveSignalled"
  | .queued => "SlaveQueued"
  | .free => "MasterFree"
  | .acknowledged => "MasterAcked"

theorem ofCode_code (s : ChannelState) : ofCode s.code = s := by
  cases s <;> decide

end ChannelState

/-- How far a channel's field lies from the low end of the word. -/
def fieldShift (channel : Nat) : Nat := 2 * channel

/-- The field of a channel, zero past the last channel. -/
def fieldMask (channel : Nat) : Word :=
  if channel < channelCount then 0b11#32 <<< fieldShift channel else 0#32

/-- The state in the field of a channel, zero past the last channel. -/
def ChannelState.bits (s : ChannelState) (channel : Nat) : Word :=
  if channel < channelCount then s.code <<< fieldShift channel else 0#32

theorem fieldMask_of_le {channel : Nat} (h : channelCount ≤ channel) :
    fieldMask channel = 0#32 := by
  simp [fieldMask, Nat.not_lt.mpr h]

theorem ChannelState.bits_of_le (s : ChannelState) {channel : Nat} (h : channelCount ≤ channel) :
    s.bits channel = 0#32 := by
  simp [ChannelState.bits, Nat.not_lt.mpr h]

end BpmpMailbox
