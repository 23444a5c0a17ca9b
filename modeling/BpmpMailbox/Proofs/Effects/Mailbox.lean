import BpmpMailbox.Proofs.Effects.Connect
import BpmpMailbox.Proofs.Effects.Semaphore

/-!
# The mailbox on the chip

What each channel operation of a mailbox does, in full: the answer, the chip
that it leaves, and the entries it adds to the journal. There is one statement
for each way an operation can end. A refusal leaves the chip as it was, since
every check stands before the first write; the statements say so by naming the
same chip on both sides.

The statements ask little of the mailbox. Its semaphore region has to be the
semaphore's, and the window of the channel in question has to hold a message.
Nothing is said of the other windows, so what is proved here holds whether or
not windows overlap.

A response reads the flags after it has written the code and the payload
around them. `loadWord_flags_answered` is the fact that makes this harmless:
the flags lie between the two and are touched by neither.

## Main definitions

* `Soc.rung`: The chip with one more doorbell line rung.
* `Soc.sent`, `Soc.answered`, `Soc.responded`: The chip after a request, and in the course of a
  response.
* `Mailbox.sendEvents`, `Mailbox.collectEvents`, `Mailbox.respondEvents`: What the operations
  leave in the journal.

## Theorems

* `Mailbox.send_run`, `Mailbox.send_notOutbound`, `Mailbox.send_busy`, `Mailbox.send_tooLarge`:
  The four ends of a request.
* `Mailbox.collect_run`, `Mailbox.collect_notOutbound`, `Mailbox.collect_busy`: The three ends of
  a collection.
* `Mailbox.respond_run`, `Mailbox.respond_outside`, `Mailbox.respond_tooLarge`: The three ends of
  a response.
* `Mailbox.Placed.send_cases`, `Mailbox.Placed.respond_cases`: Refused with the chip as it was, or
  carried out.
-/

namespace BpmpMailbox

/-- The chip with one more doorbell line rung. -/
def Soc.rung (s : Soc) (line : Word) : Soc := { s with rings := s.rings ++ [line] }

/-- The chip after a request was written to an area and its channel signalled. -/
def Soc.sent (s : Soc) (channel place : Nat) (code : Code) (flags : MessageFlags)
    (payload : List Byte) (line : Word) : Soc :=
  ((((s.stored (place + payloadOffset) payload).stored (place + codeOffset)
    (Word.toBytes code)).stored (place + flagsOffset) (Word.toBytes flags.bits)).clearBits
      (fieldMask channel)).rung line

/-- The chip after a response was written to an area. -/
def Soc.answered (s : Soc) (place : Nat) (code : Code) (data : List Byte) : Soc :=
  (s.stored (place + payloadOffset) data).stored (place + codeOffset) (Word.toBytes code)

/-- The chip after a response was written to an area, acknowledged for a
    message with these flags, and announced if they ask for it. -/
def Soc.responded (s : Soc) (channel place : Nat) (code : Code) (data : List Byte)
    (flags : MessageFlags) (line : Word) : Soc :=
  if flags.contains .ringDoorbell then
    ((s.answered place code data).acknowledged channel flags).rung line
  else (s.answered place code data).acknowledged channel flags

theorem Soc.rings_responded (s : Soc) (channel place : Nat) (code : Code) (data : List Byte)
    (flags : MessageFlags) (line : Word) :
    (s.responded channel place code data flags line).rings =
      s.rings ++ if flags.contains .ringDoorbell then [line] else [] := by
  -- Neither the message nor the word has to do with the doorbells.
  have hacknowledged :
      ((s.answered place code data).acknowledged channel flags).rings = s.rings := by
    unfold Soc.acknowledged
    split <;> rfl
  unfold Soc.responded
  split
  · rw [Soc.rung, hacknowledged]
  · rw [hacknowledged, List.append_nil]

theorem Soc.handlers_responded (s : Soc) (channel place : Nat) (code : Code) (data : List Byte)
    (flags : MessageFlags) (line : Word) :
    (s.responded channel place code data flags line).handlers = s.handlers := by
  unfold Soc.responded Soc.acknowledged
  split <;> split <;> rfl

/-- The flags lie between the code and the payload, so writing both keeps them. -/
theorem loadWord_flags_answered (s : Soc) {place : Nat} (code : Code) (data : List Byte) :
    (s.answered place code data).dram.loadWord (place + flagsOffset) =
      s.dram.loadWord (place + flagsOffset) := by
  -- The code ends where the flags begin, and the flags where the payload begins.
  have hcode := Memory.load_store_of_disjoint (s.dram.store (place + payloadOffset) data)
    (place + codeOffset) (Word.toBytes code) (place + flagsOffset) 4
    (Or.inr (by simp only [Word.length_toBytes, codeOffset, flagsOffset]; omega))
  have hdata := Memory.load_store_of_disjoint s.dram (place + payloadOffset) data
    (place + flagsOffset) 4 (Or.inl (by simp only [payloadOffset, flagsOffset]; omega))
  simp only [Soc.answered, Soc.stored, Memory.loadWord]
  rw [hcode, hdata]

namespace Channel

/-- The indices below the first inbound one are those of outbound channels. -/
theorem isOutbound_of_lt {channel : Nat} (h : channel < inboundBase) :
    ∃ c, ofIndex? channel = some c ∧ c.role.isOutbound = true := by
  unfold ofIndex?
  by_cases ht : channel < threadBase
  · exact ⟨_, by rw [if_pos ht], rfl⟩
  · exact ⟨_, by rw [if_neg ht, if_pos h], rfl⟩

theorem not_isOutbound_of_le {channel : Nat} (h : inboundBase ≤ channel) {c : Channel}
    (hc : ofIndex? channel = some c) : c.role.isOutbound = false := by
  unfold ofIndex? at hc
  -- An inbound index is past the outbound channels of cores and of threads.
  have hthread : ¬channel < threadBase := by
    simp only [threadBase, inboundBase] at h ⊢
    omega
  rw [if_neg hthread, if_neg (Nat.not_lt.mpr h)] at hc
  by_cases hlt : channel < channelCount
  · rw [if_pos hlt, Option.some.injEq] at hc
    rw [← hc]
    rfl
  · rw [if_neg hlt] at hc
    exact absurd hc (by simp only [reduceCtorEq, not_false_eq_true])

end Channel

namespace Mailbox

variable {mb : Mailbox} {channel place : Nat} {region : Region}

theorem area_run (hreg : mb.areas.outbound? channel = some region) (w : World Soc) :
    mb.area Soc.platform channel w = .ok ⟨Soc.platform.bus region⟩ w := by
  simp only [area, hreg, pure_run]

theorem outboundArea_run (hreg : mb.areas.outbound? channel = some region)
    (hout : channel < inboundBase) (w : World Soc) :
    mb.outboundArea Soc.platform channel w = .ok ⟨Soc.platform.bus region⟩ w := by
  rcases Channel.isOutbound_of_lt hout with ⟨c, hc, hrole⟩
  simp only [outboundArea, hc, hrole, if_true]
  exact area_run hreg w

theorem outboundArea_refused {σ : Type} (pf : Platform σ) (mb : Mailbox)
    (hin : inboundBase ≤ channel) (w : World σ) :
    mb.outboundArea pf channel w = .error (.refused (.invalidChannel channel)) w := by
  unfold outboundArea
  cases hc : Channel.ofIndex? channel with
  -- An index that is no channel is refused like one that is inbound.
  | none => rfl
  | some c =>
      simp only [Channel.not_isOutbound_of_le hin hc, Bool.false_eq_true, if_false]
      rfl

/-- The read of the semaphore word that finds out the state of a channel. -/
abbrev statusRead (mb : Mailbox) : Event :=
  .call (.access mb.semaphoreRegion (.read statusPort))

/-- What ringing the doorbell for a channel leaves in the journal. -/
def ringEvents (mb : Mailbox) (channel : Nat) : List Event :=
  [.log (.ringing mb.config.doorbellLine channel), .call (.ring mb.config.doorbellLine)]

theorem ring_run (mb : Mailbox) (channel : Nat) (w : World Soc) :
    (mb.notifier Soc.platform).ring channel w =
      .ok () (w.moved (w.hardware.rung mb.config.doorbellLine) (mb.ringEvents channel)) := by
  unfold Notifier.ring
  rw [bind_ok (log_moved _ w)]
  simp only [notifier, Soc.platform]
  -- The log line comes before the call, and the line rung is the configured one.
  rw [bind_ok (note_moved _ _), Soc.ring, setHardware_moved, World.moved_moved, World.moved_moved,
    World.moved_hardware, World.moved_hardware, List.append_nil]
  rfl

section

variable (hsem : mb.semaphoreRegion.kind = .semaphore)

include hsem

theorem stateOf_run (hlt : channel < channelCount) (w : World Soc) :
    mb.stateOf Soc.platform channel w =
      .ok (Word.state w.hardware.word channel) (w.moved w.hardware [mb.statusRead]) := by
  unfold stateOf semaphore
  rw [bind_ok (Semaphore.state?_run hsem hlt w)]
  rfl

theorem requireState_run (hlt : channel < channelCount) {granted : ChannelState} (w : World Soc)
    (hs : Word.state w.hardware.word channel = granted) :
    mb.requireState Soc.platform channel granted w =
      .ok () (w.moved w.hardware [mb.statusRead]) := by
  unfold requireState
  rw [bind_ok (stateOf_run hsem hlt w), if_pos hs, pure_run]

theorem requireState_refused (hlt : channel < channelCount) {granted : ChannelState}
    (w : World Soc) (hs : Word.state w.hardware.word channel ≠ granted) :
    mb.requireState Soc.platform channel granted w =
      .error (.refused (.channelBusy channel (Word.state w.hardware.word channel)))
        (w.moved w.hardware [mb.statusRead]) := by
  unfold requireState
  rw [bind_ok (stateOf_run hsem hlt w), if_neg hs, refuse_run]

end

/-- What a request that is posted leaves in the journal. -/
def sendEvents (mb : Mailbox) (region : Region) (channel : Nat) (code : Code)
    (flags : MessageFlags) (payload : List Byte) : List Event :=
  [mb.statusRead,
    .call (.access region (.writeBytes payloadOffset payload.length)),
    .call (.access region (.write codeOffset code)),
    .call (.access region (.write flagsOffset flags.bits)),
    .log (.signalled channel),
    .call (.access mb.semaphoreRegion (.write clearPort (fieldMask channel)))] ++
  mb.ringEvents channel

/-- What a collected response leaves in the journal. -/
def collectEvents (mb : Mailbox) (region : Region) (channel count : Nat) : List Event :=
  [mb.statusRead,
    .call (.access region (.read codeOffset)),
    .call (.access region (.readBytes payloadOffset count)),
    .call (.access mb.semaphoreRegion (.read statusPort)),
    .log (.released channel),
    .call (.access mb.semaphoreRegion (.write clearPort (releaseBits channel)))]

/-- The warning about a response that nobody waits for. -/
def unaskedEvents (channel : Nat) (state : ChannelState) : List Event :=
  if state = .signalled ∨ state = .queued then [] else [.log (.responseUnasked channel state)]

/-- What a response leaves in the journal, for the flags and the state found. -/
def respondEvents (mb : Mailbox) (region : Region) (channel : Nat) (code : Code)
    (data : List Byte) (flags : MessageFlags) (state : ChannelState) : List Event :=
  [.call (.access region (.writeBytes payloadOffset data.length)),
    .call (.access region (.write codeOffset code)),
    .call (.access region (.read flagsOffset)),
    mb.statusRead] ++ unaskedEvents channel state ++
  Semaphore.acknowledgeEvents mb.semaphoreRegion channel flags ++
  if flags.contains .ringDoorbell then mb.ringEvents channel else []

section Send

theorem send_notOutbound {σ : Type} (pf : Platform σ) (mb : Mailbox) (hin : inboundBase ≤ channel)
    (code : Code) (flags : MessageFlags) (payload : List Byte) (w : World σ) :
    mb.send pf channel code flags payload w = .error (.refused (.invalidChannel channel)) w := by
  unfold send
  rw [bind_error (outboundArea_refused pf mb hin w)]

variable (hsem : mb.semaphoreRegion.kind = .semaphore)
  (hreg : mb.areas.outbound? channel = some region) (hout : channel < inboundBase)

include hsem hreg hout

theorem send_busy (code : Code) (flags : MessageFlags) (payload : List Byte) (w : World Soc)
    (hs : Word.state w.hardware.word channel ≠ .free) :
    mb.send Soc.platform channel code flags payload w =
      .error (.refused (.channelBusy channel (Word.state w.hardware.word channel)))
        (w.moved w.hardware [mb.statusRead]) := by
  have hlt : channel < channelCount := Nat.lt_trans hout (by decide)
  unfold send
  -- The refusal comes before the first access to the area.
  rw [bind_ok (outboundArea_run hreg hout w), bind_error (requireState_refused hsem hlt w hs)]

theorem send_tooLarge (code : Code) (flags : MessageFlags) {payload : List Byte} (w : World Soc)
    (hs : Word.state w.hardware.word channel = .free) (hlen : payloadSize < payload.length) :
    mb.send Soc.platform channel code flags payload w =
      .error (.refused (.payloadTooLarge payload.length payloadSize))
        (w.moved w.hardware [mb.statusRead]) := by
  have hlt : channel < channelCount := Nat.lt_trans hout (by decide)
  unfold send
  rw [bind_ok (outboundArea_run hreg hout w), bind_ok (requireState_run hsem hlt w hs),
    bind_error (ChannelArea.writePayload_refused hlen _)]

theorem send_run (hplace : region.MessageAt place) (code : Code) (flags : MessageFlags)
    {payload : List Byte} (w : World Soc) (hs : Word.state w.hardware.word channel = .free)
    (hlen : payload.length ≤ payloadSize) :
    mb.send Soc.platform channel code flags payload w =
      .ok () (w.moved
        (w.hardware.sent channel place code flags payload mb.config.doorbellLine)
        (mb.sendEvents region channel code flags payload)) := by
  have hlt : channel < channelCount := Nat.lt_trans hout (by decide)
  unfold send semaphore
  rw [bind_ok (outboundArea_run hreg hout w), bind_ok (requireState_run hsem hlt w hs),
    bind_ok (ChannelArea.writePayload_run hplace hlen _),
    bind_ok (ChannelArea.setCode_run hplace code _),
    bind_ok (ChannelArea.setFlags_run hplace flags _),
    bind_ok (Semaphore.signal_run hsem hlt _), ring_run]
  simp only [World.moved_moved, World.moved_hardware]
  rfl

end Send

section Collect

theorem collect_notOutbound {σ : Type} (pf : Platform σ) (mb : Mailbox)
    (hin : inboundBase ≤ channel) (buffer : List Byte) (w : World σ) :
    mb.collect pf channel buffer w = .error (.refused (.invalidChannel channel)) w := by
  unfold collect
  rw [bind_error (outboundArea_refused pf mb hin w)]

variable (hsem : mb.semaphoreRegion.kind = .semaphore)
  (hreg : mb.areas.outbound? channel = some region) (hout : channel < inboundBase)

include hsem hreg hout

theorem collect_busy (buffer : List Byte) (w : World Soc)
    (hs : Word.state w.hardware.word channel ≠ .acknowledged) :
    mb.collect Soc.platform channel buffer w =
      .error (.refused (.channelBusy channel (Word.state w.hardware.word channel)))
        (w.moved w.hardware [mb.statusRead]) := by
  have hlt : channel < channelCount := Nat.lt_trans hout (by decide)
  unfold collect
  rw [bind_ok (outboundArea_run hreg hout w), bind_error (requireState_refused hsem hlt w hs)]

/-- The state is looked at twice, once to grant the buffer and once before the
    release, and nothing in between changes it. -/
theorem collect_run (hplace : region.MessageAt place) (buffer : List Byte) (w : World Soc)
    (hs : Word.state w.hardware.word channel = .acknowledged) :
    mb.collect Soc.platform channel buffer w =
      .ok (w.hardware.dram.loadWord (place + codeOffset), min buffer.length payloadSize,
          w.hardware.dram.load (place + payloadOffset) (min buffer.length payloadSize) ++
            buffer.drop (min buffer.length payloadSize))
        (w.moved (w.hardware.clearBits (releaseBits channel))
          (mb.collectEvents region channel (min buffer.length payloadSize))) := by
  have hlt : channel < channelCount := Nat.lt_trans hout (by decide)
  unfold collect semaphore
  rw [bind_ok (outboundArea_run hreg hout w), bind_ok (requireState_run hsem hlt w hs),
    bind_ok (ChannelArea.code_run hplace _), bind_ok (ChannelArea.readPayload_run hplace buffer _)]
  simp only [World.moved_moved, World.moved_hardware]
  -- Reading has changed nothing, so the release finds the state that granted the buffer.
  rw [bind_ok (Semaphore.release_run hsem hlt (w.moved w.hardware _) hs), pure_run,
    World.moved_moved]
  rfl

end Collect

section Respond

theorem respond_outside {σ : Type} (pf : Platform σ) (mb : Mailbox) (h : channelCount ≤ channel)
    (code : Code) (data : List Byte) (w : World σ) :
    mb.respond pf channel code data w =
      .error (.refused (.invalidChannel channel))
        (w.moved w.hardware [.log (.responseToInvalid channel)]) := by
  unfold respond
  rw [if_neg (Nat.not_lt.mpr h), bind_ok (log_moved _ w), refuse_run]

theorem respond_tooLarge (mb : Mailbox) (h : channel < channelCount) (code : Code)
    {data : List Byte} (hlen : payloadSize < data.length) (w : World Soc) :
    mb.respond Soc.platform channel code data w =
      .error (.refused (.payloadTooLarge data.length payloadSize))
        (w.moved w.hardware [.log (.responseTooLarge channel data.length payloadSize)]) := by
  unfold respond
  rw [if_pos h, if_neg (Nat.not_le.mpr hlen), bind_ok (log_moved _ w), refuse_run]

/-- The second half of a response: acknowledge it, and ring if it was asked for. -/
theorem finish_run (hsem : mb.semaphoreRegion.kind = .semaphore) (hlt : channel < channelCount)
    (flags : MessageFlags) (w : World Soc) :
    (do
      (mb.semaphore Soc.platform).acknowledge channel flags
      if flags.contains .ringDoorbell then (mb.notifier Soc.platform).ring channel
      else pure () : Action Soc Unit) w =
      .ok () (w.moved
        (if flags.contains .ringDoorbell then
          (w.hardware.acknowledged channel flags).rung mb.config.doorbellLine
        else w.hardware.acknowledged channel flags)
        (Semaphore.acknowledgeEvents mb.semaphoreRegion channel flags ++
          if flags.contains .ringDoorbell then mb.ringEvents channel else [])) := by
  unfold semaphore
  rw [bind_ok (Semaphore.acknowledge_run hsem hlt flags w)]
  by_cases hring : flags.contains .ringDoorbell = true
  · simp only [if_pos hring]
    rw [ring_run, World.moved_moved, World.moved_hardware]
  · simp only [if_neg hring]
    rw [pure_run, List.append_nil]

/-- The state of the channel only decides whether there is a warning; the
    response is carried out in every state and on every channel. -/
theorem respond_run (hsem : mb.semaphoreRegion.kind = .semaphore)
    (hreg : mb.areas.outbound? channel = some region) (hlt : channel < channelCount)
    (hplace : region.MessageAt place) (code : Code) {data : List Byte}
    (hlen : data.length ≤ payloadSize) (w : World Soc) :
    mb.respond Soc.platform channel code data w =
      .ok () (w.moved
        (w.hardware.responded channel place code data
          ⟨w.hardware.dram.loadWord (place + flagsOffset)⟩ mb.config.doorbellLine)
        (mb.respondEvents region channel code data
          ⟨w.hardware.dram.loadWord (place + flagsOffset)⟩
          (Word.state w.hardware.word channel))) := by
  have hinb : mb.areas.inbound? channel = some region := hreg
  have hwritten : (w.hardware.stored (place + payloadOffset) data).stored (place + codeOffset)
      (Word.toBytes code) = w.hardware.answered place code data := rfl
  have hword : (w.hardware.answered place code data).word = w.hardware.word := rfl
  unfold respond
  rw [if_pos hlt, if_pos hlen, bind_ok (area_run hreg w),
    bind_ok (ChannelArea.writePayload_run hplace hlen w),
    bind_ok (ChannelArea.setCode_run hplace code _)]
  simp only [hinb, World.moved_moved, World.moved_hardware, hwritten]
  -- The flags are read after both writes, and are still those of the request.
  rw [bind_ok (ChannelArea.flags_run hplace _)]
  simp only [World.moved_moved, World.moved_hardware, loadWord_flags_answered]
  rw [bind_ok (stateOf_run hsem hlt _)]
  simp only [World.moved_moved, World.moved_hardware, hword]
  -- The warning stands between the two halves, and only in two of the four states.
  by_cases hasked : Word.state w.hardware.word channel = .signalled ∨
      Word.state w.hardware.word channel = .queued
  · rw [if_pos hasked, finish_run hsem hlt]
    simp only [World.moved_moved, World.moved_hardware, respondEvents, unaskedEvents,
      if_pos hasked, Soc.responded, List.append_assoc]
    rfl
  · rw [if_neg hasked, bind_ok (log_moved _ _), finish_run hsem hlt]
    simp only [World.moved_moved, World.moved_hardware, respondEvents, unaskedEvents,
      if_neg hasked, Soc.responded, List.append_assoc]
    rfl

end Respond

namespace Placed

variable {places : Fin channelCount → Nat} (hmb : mb.Placed places)

include hmb

/-- A request is refused and leaves the chip as it was, or it was allowed and is sent. -/
theorem send_cases (channel : Nat) (code : Code) (flags : MessageFlags) (payload : List Byte)
    (w : World Soc) :
    (∃ e events, mb.send Soc.platform channel code flags payload w =
      .error (.refused e) (w.moved w.hardware events)) ∨
    ∃ (hlt : channel < channelCount) (events : List Event), payload.length ≤ payloadSize ∧
      mb.send Soc.platform channel code flags payload w =
        .ok () (w.moved (w.hardware.sent channel (places ⟨channel, hlt⟩) code flags payload
          mb.config.doorbellLine) events) := by
  by_cases hin : inboundBase ≤ channel
  · refine Or.inl ⟨.invalidChannel channel, [], ?_⟩
    rw [send_notOutbound _ mb hin, World.moved, List.append_nil]
  have hout := Nat.not_le.mp hin
  have hlt : channel < channelCount := Nat.lt_trans hout (by decide)
  rcases hmb.window ⟨channel, hlt⟩ with ⟨region, hreg, hplace⟩
  by_cases hfree : Word.state w.hardware.word channel = .free
  · by_cases hlen : payloadSize < payload.length
    · exact Or.inl ⟨_, _, send_tooLarge hmb.semaphore hreg hout code flags w hfree hlen⟩
    · have hlen' := Nat.not_lt.mp hlen
      exact Or.inr ⟨hlt, _, hlen', send_run hmb.semaphore hreg hout hplace code flags w hfree hlen'⟩
  · exact Or.inl ⟨_, _, send_busy hmb.semaphore hreg hout code flags payload w hfree⟩

/-- A response is refused and leaves the chip as it was, or it fits a channel and is placed. -/
theorem respond_cases (channel : Nat) (code : Code) (data : List Byte) (w : World Soc) :
    (∃ e events, mb.respond Soc.platform channel code data w =
      .error (.refused e) (w.moved w.hardware events) ∧
        ¬ (channel < channelCount ∧ data.length ≤ payloadSize)) ∨
    ∃ (hlt : channel < channelCount) (region : Region), data.length ≤ payloadSize ∧
      mb.respond Soc.platform channel code data w =
        .ok () (w.moved
          (w.hardware.responded channel (places ⟨channel, hlt⟩) code data
            ⟨w.hardware.dram.loadWord (places ⟨channel, hlt⟩ + flagsOffset)⟩
            mb.config.doorbellLine)
          (mb.respondEvents region channel code data
            ⟨w.hardware.dram.loadWord (places ⟨channel, hlt⟩ + flagsOffset)⟩
            (Word.state w.hardware.word channel))) := by
  by_cases hlt : channel < channelCount
  · rcases hmb.window ⟨channel, hlt⟩ with ⟨region, hreg, hplace⟩
    by_cases hlen : payloadSize < data.length
    · exact Or.inl ⟨_, _, respond_tooLarge mb hlt code hlen w, fun h => Nat.not_le.mpr hlen h.2⟩
    · have hlen' := Nat.not_lt.mp hlen
      exact Or.inr ⟨hlt, region, hlen', respond_run hmb.semaphore hreg hlt hplace code hlen' w⟩
  · exact Or.inl ⟨_, _, respond_outside _ mb (Nat.not_lt.mp hlt) code data w, fun h => hlt h.1⟩

end Placed

end Mailbox

end BpmpMailbox
