import BpmpMailbox.Proofs.Effects.Semaphore
import BpmpMailbox.Soc.Firmware

/-!
# The firmware's steps

What the firmware does to the chip, step by step. The firmware keeps no
journal: apart from a doorbell that it raises, none of its steps leaves an
entry. Its areas are found through the published addresses and not through the
windows of a mailbox, so the statements take the place of an area from
`areaOffset`.

Raising a doorbell calls whatever is installed for the core. Here the handlers
only take note of the call, which `OnlyRecords` says of every handler at once;
the call then changes nothing of the chip, and a core without a handler is no
different in that respect.

## Main definitions

* `Soc.written`, `Soc.posted`: The chip with a message written into an area, and with a request
  posted on its channel.
* `Soc.OnlyRecords`: Every handler installed only takes note of its call.
* `Soc.isListening`, `Soc.fireEvents`: Who takes a doorbell, and what it leaves in the journal.

## Theorems

* `Firmware.message_run`, `Firmware.message_outside`: Reading an area.
* `Firmware.writeMessage_run`, `Firmware.writeMessage_fault`: Writing one.
* `Soc.fire_run`: Raising a doorbell among handlers that only take note.
* `Firmware.queue_run`, `Firmware.release_run`: The steps that touch the word alone.
* `Firmware.complete_run`, `Firmware.complete_tooLarge`, `Firmware.complete_outside`: The ends of a
  completed request.
* `Firmware.post_run`, `Firmware.post_tooLarge`, `Firmware.post_outside`: The ends of a posted one.
-/

namespace BpmpMailbox

namespace Soc

/-- The chip with a message written into an area, field by field. -/
def written (s : Soc) (place : Nat) (code : Code) (flags : MessageFlags) (data : List Byte) : Soc :=
  ((s.stored (place + codeOffset) (Word.toBytes code)).stored (place + flagsOffset)
    (Word.toBytes flags.bits)).stored (place + payloadOffset) data

/-- The chip with a request posted on a channel: its message is written, and the
    channel is handed over. -/
def posted (s : Soc) (channel place : Nat) (code : Code) (flags : MessageFlags)
    (data : List Byte) : Soc :=
  (s.written place code flags data).clearBits (fieldMask channel)

/-- Every handler installed only takes note of its call. -/
def OnlyRecords (s : Soc) : Prop :=
  ∀ core b, s.binding? core = some b → b.handler.reaction = .record

theorem OnlyRecords.of_handlers_eq {s t : Soc} (h : s.OnlyRecords) (ht : t.handlers = s.handlers) :
    t.OnlyRecords := by
  intro core b hb
  rw [binding?, ht] at hb
  exact h core b hb

/-- Whether a core has a handler. -/
def isListening (s : Soc) (core : Nat) : Bool := (s.binding? core).isSome

/-- What raising a doorbell leaves in the journal when handlers only take note. -/
def fireEvents (s : Soc) (core : Nat) : List Event :=
  match s.binding? core with
  | none => [.log (.spuriousDoorbell core)]
  | some b => [.handled b.handler b.channel .recorded]

theorem dramLoad_run {start count : Nat} (h : start + count ≤ dramSize) (w : World Soc) :
    dramLoad start count w = .ok (w.hardware.dram.load start count) w := by
  unfold dramLoad
  rw [bind_ok (hardware_run w), if_pos h, pure_run]

theorem dramStore_run {start : Nat} {data : List Byte} (h : start + data.length ≤ dramSize)
    (w : World Soc) :
    dramStore start data w = .ok () (w.moved (w.hardware.stored start data) []) := by
  unfold dramStore
  rw [if_pos h, setHardware_moved]
  rfl

/-- A doorbell among handlers that only take note changes nothing of the chip. -/
theorem fire_run (mailbox? : Nat → Option Mailbox) (core : Nat) (w : World Soc)
    (h : w.hardware.OnlyRecords) :
    fire mailbox? core w =
      .ok (w.hardware.isListening core) (w.moved w.hardware (w.hardware.fireEvents core)) := by
  unfold fire fireNested
  rw [bind_ok (hardware_run w)]
  -- Without a handler the doorbell is only logged; with one, the handler takes note and
  -- raises no further doorbell.
  cases hb : w.hardware.binding? core with
  | none =>
      simp only [isListening, fireEvents, hb]
      rw [bind_ok (log_moved _ w), pure_run]
      rfl
  | some b =>
      have hrec : b.handler.reaction = .record := h core b hb
      have hreact : b.handler.react mailbox? b.channel w =
          .ok () (w.moved w.hardware [.handled b.handler b.channel .recorded]) := by
        unfold Handler.react
        simp only [hrec]
        rw [bind_ok (pure_run _ w), note_moved]
      simp only [isListening, fireEvents, hb]
      rw [bind_ok hreact]
      simp only [Handler.next?, hrec]
      rw [pure_run]
      rfl

theorem areaOffset_outside (s : Soc) {channel : Nat} (h : channelCount ≤ channel) :
    s.areaOffset channel = .error .indexOutOfBounds := by
  have hnone : s.addresses[channel]? = none := Vector.getElem?_eq_none h
  rw [areaOffset, hnone]

end Soc

namespace Firmware

section Area

variable {channel place : Nat} {w : World Soc} (hin : place + messageSize ≤ dramSize)
  (ha : w.hardware.areaOffset channel = .ok place)

include hin ha

theorem message_run :
    message channel w = .ok (.ofBytes (w.hardware.dram.load place messageSize)) w := by
  unfold message
  rw [bind_ok (hardware_run w), bind_ok (ofExcept_ok ha w), bind_ok (Soc.dramLoad_run hin w),
    pure_run]

theorem writeMessage_run (code : Code) (flags : MessageFlags) {data : List Byte}
    (hlen : data.length ≤ payloadSize) :
    writeMessage channel code flags data w =
      .ok () (w.moved (w.hardware.written place code flags data) []) := by
  -- Code, flags and payload all lie inside the message, and the message inside the memory.
  have hcode : place + codeOffset + (Word.toBytes code).length ≤ dramSize := by
    simp only [Word.length_toBytes, codeOffset, messageSize] at hin ⊢
    omega
  have hflags : place + flagsOffset + (Word.toBytes flags.bits).length ≤ dramSize := by
    simp only [Word.length_toBytes, flagsOffset, messageSize] at hin ⊢
    omega
  have hdata : place + payloadOffset + data.length ≤ dramSize := by
    simp only [payloadOffset, messageSize, payloadSize] at hin hlen ⊢
    omega
  unfold writeMessage
  rw [if_pos hlen, bind_ok (hardware_run w), bind_ok (ofExcept_ok ha w),
    bind_ok (Soc.dramStore_run hcode w), bind_ok (Soc.dramStore_run hflags _),
    Soc.dramStore_run hdata _]
  simp only [World.moved_moved, World.moved_hardware]
  rfl

theorem complete_run (code : Code) {data : List Byte} (hlen : data.length ≤ payloadSize) :
    complete channel code data w =
      .ok () (w.moved ((w.hardware.written place code
        (Message.ofBytes (w.hardware.dram.load place messageSize)).flags data).setBits
          (ChannelState.acknowledged.bits channel)) []) := by
  unfold complete
  -- The flags written back are those just read, so the message keeps them.
  rw [bind_ok (message_run hin ha), bind_ok (writeMessage_run hin ha code _ hlen),
    setHardware_moved, World.moved_moved]
  rfl

end Area

theorem writeMessage_fault (channel : Nat) (code : Code) (flags : MessageFlags) {data : List Byte}
    (hlen : payloadSize < data.length) (w : World Soc) :
    writeMessage channel code flags data w = .error (.fault .firmwarePayloadTooLarge) w := by
  unfold writeMessage
  rw [if_neg (Nat.not_le.mpr hlen), fault_run]

theorem message_outside {channel : Nat} (h : channelCount ≤ channel) (w : World Soc) :
    message channel w = .error (.fault .indexOutOfBounds) w := by
  unfold message
  rw [bind_ok (hardware_run w),
    bind_error (ofExcept_error (Soc.areaOffset_outside w.hardware h) w)]

theorem complete_tooLarge {channel place : Nat} {w : World Soc}
    (hin : place + messageSize ≤ dramSize) (ha : w.hardware.areaOffset channel = .ok place)
    (code : Code) {data : List Byte} (hlen : payloadSize < data.length) :
    complete channel code data w = .error (.fault .firmwarePayloadTooLarge) w := by
  unfold complete
  rw [bind_ok (message_run hin ha), bind_error (writeMessage_fault channel code _ hlen w)]

theorem complete_outside {channel : Nat} (h : channelCount ≤ channel) (code : Code)
    (data : List Byte) (w : World Soc) :
    complete channel code data w = .error (.fault .indexOutOfBounds) w := by
  unfold complete
  rw [bind_error (message_outside h w)]

theorem queue_run (channel : Nat) (w : World Soc) :
    queue channel w =
      .ok () (w.moved (w.hardware.setBits (ChannelState.queued.bits channel)) []) := by
  unfold queue
  rw [setHardware_moved]

theorem release_run (channel : Nat) (w : World Soc) :
    release channel w = .ok () (w.moved (w.hardware.clearBits (releaseBits channel)) []) := by
  unfold release
  rw [setHardware_moved]

theorem inboundIndex_ok {core : Nat} (h : core < coreCount) :
    inboundIndex core = .ok (inboundBase + core) := by
  rw [inboundIndex, if_pos h]

/-- Every core has an inbound channel. -/
theorem inboundIndex_lt {core : Nat} (h : core < coreCount) : inboundBase + core < channelCount :=
  Nat.add_lt_add_left h inboundBase

section Post

variable (mailbox? : Nat → Option Mailbox) {core place : Nat} (hcore : core < coreCount)
  {w : World Soc} (hin : place + messageSize ≤ dramSize)
  (ha : w.hardware.areaOffset (inboundBase + core) = .ok place) (code : Code)
  (flags : MessageFlags) {data : List Byte} (hlen : data.length ≤ payloadSize)

include hcore hin ha hlen

/-- A post is a doorbell on the chip with the request posted. -/
theorem post_eq_fire :
    post mailbox? core code flags data w =
      Soc.fire mailbox? core
        (w.moved (w.hardware.posted (inboundBase + core) place code flags data) []) := by
  unfold post
  rw [bind_ok (ofExcept_ok (inboundIndex_ok hcore) w),
    bind_ok (writeMessage_run hin ha code flags hlen), bind_ok (setHardware_moved _ _),
    World.moved_moved]
  rfl

theorem post_run (hrec : w.hardware.OnlyRecords) :
    post mailbox? core code flags data w =
      .ok (w.hardware.isListening core)
        (w.moved (w.hardware.posted (inboundBase + core) place code flags data)
          (w.hardware.fireEvents core)) := by
  -- Writing the message and clearing the field leave the handlers alone.
  have hfire := Soc.fire_run mailbox? core
    (w.moved (w.hardware.posted (inboundBase + core) place code flags data) []) hrec
  rw [World.moved_moved] at hfire
  rw [post_eq_fire mailbox? hcore hin ha code flags hlen]
  exact hfire

end Post

theorem post_tooLarge (mailbox? : Nat → Option Mailbox) {core : Nat} (hcore : core < coreCount)
    (code : Code) (flags : MessageFlags) {data : List Byte} (hlen : payloadSize < data.length)
    (w : World Soc) :
    post mailbox? core code flags data w = .error (.fault .firmwarePayloadTooLarge) w := by
  unfold post
  rw [bind_ok (ofExcept_ok (inboundIndex_ok hcore) w),
    bind_error (writeMessage_fault _ code flags hlen w)]

theorem post_outside (mailbox? : Nat → Option Mailbox) {core : Nat} (hcore : coreCount ≤ core)
    (code : Code) (flags : MessageFlags) (data : List Byte) (w : World Soc) :
    post mailbox? core code flags data w = .error (.fault .coreOutOfRange) w := by
  have hindex : inboundIndex core = .error .coreOutOfRange := by
    rw [inboundIndex, if_neg (Nat.not_lt.mpr hcore)]
  unfold post
  rw [bind_error (ofExcept_error hindex w)]

end Firmware

end BpmpMailbox
