import Mathlib.Data.List.Basic
import Mathlib.Logic.Function.Basic
import BpmpMailbox.Proofs.Contents
import BpmpMailbox.Proofs.Frame

/-!
# A channel as a record

Twelve channels share one word and one memory, and every operation is written
in terms of masks, shifts and offsets. Seen from the protocol there is nothing
shared: a channel is a record of four fields, its state, and the code, the
flags and the payload of its message. This module reads that record off the
chip and says what each elementary change does to it.

Where the messages lie is a `Layout`. All that is asked of one is that each
message lies inside the memory and that no two overlap; the firmware's own
layout puts them one after the other from the start of the memory on. With a
layout fixed, `Soc.records` reads all twelve records at once, and a change of
one channel is an update of one record.

Nothing of the word and the memory is lost on the way. The word is the packing
of the twelve states beside the spare bits, and with the firmware's layout the
memory is the twelve messages one after the other, and then the rest.

## Main definitions

* `MessageFlags.settled`: The state in which an acknowledgement leaves a channel.
* `Record`, `Records`: One channel, and all of them.
* `Record.contents`: The message of a record.
* `Record.bytes`: The message of a record as it lies in memory.
* `Layout`, `Layout.boot`: Where the messages lie, and where the firmware puts them.
* `Soc.recordAt`, `Soc.records`: The records read off the chip.
* `Soc.PlacedAt`: The firmware finds the messages where the layout has them.
* `Soc.Encodes`: The word and the memory are those of given records.

## Theorems

* `Soc.recordAt_code`, `Soc.recordAt_flags`, `Soc.recordAt_payload`: What writing to the message
  does to a record.
* `Soc.recordAt_sent`, `Soc.recordAt_responded`, `Soc.recordAt_written`: The longer changes.
* `Soc.load_recordAt`: The bytes of a message are those of its record.
* `Soc.records_of_changedOn`: A change of one channel updates one record.
* `Soc.encodes_records`: The records, the spare bits and the rest make up the chip.
-/

namespace BpmpMailbox

/-- The state in which an acknowledgement leaves a channel, for a message with these flags. -/
def MessageFlags.settled (flags : MessageFlags) : ChannelState :=
  if flags.contains .doAck then .acknowledged else .free

/-- One channel as a record of its own. -/
@[ext]
structure Record where
  state : ChannelState
  code : Code
  flags : MessageFlags
  data : Memory payloadSize
  deriving DecidableEq

/-- All channels as records. -/
abbrev Records := Fin channelCount → Record

namespace Record

/-- The message of a record as it lies in memory. -/
def bytes (r : Record) : List Byte :=
  Word.toBytes r.code ++ (Word.toBytes r.flags.bits ++ r.data.bytes)

/-- The message of a record. -/
def message (r : Record) : Message := ⟨r.code, r.flags, r.data.bytes⟩

/-- The message of a record, without the state. -/
def contents (r : Record) : Contents := ⟨r.code, r.flags, r.data⟩

/-- The firmware reads the message of a record from its bytes. -/
theorem ofBytes_bytes (r : Record) : Message.ofBytes r.bytes = r.message :=
  r.contents.ofBytes_bytes

end Record

/-- Where the messages of the channels lie, each inside the memory and no two
    of them overlapping. -/
structure Layout where
  place : Fin channelCount → Nat
  inside : ∀ channel, place channel + messageSize ≤ dramSize
  apart : ∀ channel other, channel ≠ other →
    place channel + messageSize ≤ place other ∨ place other + messageSize ≤ place channel

theorem message_inside {i : Nat} (h : i < channelCount) :
    i * messageSize + messageSize ≤ dramSize := by
  simp only [channelCount, messageSize, dramSize] at h ⊢
  omega

theorem messages_apart {i j : Nat} (h : i ≠ j) :
    i * messageSize + messageSize ≤ j * messageSize ∨
      j * messageSize + messageSize ≤ i * messageSize := by
  simp only [messageSize]
  omega

/-- The messages one after the other from the start of the memory on. -/
def Layout.boot : Layout where
  place channel := channel * messageSize
  inside channel := message_inside channel.isLt
  apart _ _ hne := messages_apart (Fin.val_ne_of_ne hne)

namespace Soc

/-- The record of a channel, read off the word and the message at a place. -/
def recordAt (s : Soc) (channel place : Nat) (h : place + messageSize ≤ dramSize) : Record where
  state := Word.state s.word channel
  code := s.dram.loadWord (place + codeOffset)
  flags := ⟨s.dram.loadWord (place + flagsOffset)⟩
  data := ⟨s.dram.load (place + payloadOffset) payloadSize, Memory.length_load _ _ _
    (by simp only [payloadOffset, payloadSize, messageSize] at h ⊢; omega)⟩

/-- The records of all channels. -/
def records (l : Layout) (s : Soc) : Records :=
  fun channel => s.recordAt channel (l.place channel) (l.inside channel)

/-- The firmware finds the messages where the layout has them. -/
def PlacedAt (s : Soc) (l : Layout) : Prop :=
  ∀ channel : Fin channelCount, s.areaOffset channel = .ok (l.place channel)

section

variable (s : Soc) (channel : Nat) {place : Nat} (h : place + messageSize ≤ dramSize)

include h

/-- A store that changes the message changes the record in the same way. -/
theorem recordAt_stored {start : Nat} {data : List Byte} {c : Contents}
    (hcontents : (s.dram.store start data).contentsAt h = c) :
    (s.stored start data).recordAt channel place h =
      ⟨(s.recordAt channel place h).state, c.code, c.flags, c.data⟩ := by
  rw [← hcontents]
  rfl

theorem recordAt_code (code : Code) :
    (s.stored (place + codeOffset) (Word.toBytes code)).recordAt channel place h =
      { s.recordAt channel place h with code := code } :=
  recordAt_stored s channel h (s.dram.contentsAt_code h code)

theorem recordAt_flags (flags : MessageFlags) :
    (s.stored (place + flagsOffset) (Word.toBytes flags.bits)).recordAt channel place h =
      { s.recordAt channel place h with flags := flags } :=
  recordAt_stored s channel h (s.dram.contentsAt_flags h flags)

theorem recordAt_payload {data : List Byte} (hlen : data.length ≤ payloadSize) :
    (s.stored (place + payloadOffset) data).recordAt channel place h =
      { s.recordAt channel place h with
        data := (s.recordAt channel place h).data.store 0 data } :=
  recordAt_stored s channel h (s.dram.contentsAt_payload h hlen)

/-- The bytes of a message are those of its record. -/
theorem load_recordAt :
    s.dram.load place messageSize = (s.recordAt channel place h).bytes :=
  s.dram.load_contentsAt h

end

section

variable (s : Soc) {place : Nat} (h : place + messageSize ≤ dramSize)

theorem recordAt_rung (channel : Nat) (line : Word) :
    (s.rung line).recordAt channel place h = s.recordAt channel place h := rfl

theorem recordAt_signalled (channel : Fin channelCount) :
    (s.clearBits (fieldMask channel)).recordAt channel place h =
      { s.recordAt channel place h with state := .signalled } :=
  Record.ext (Word.state_clear_field s.word channel) rfl rfl rfl

theorem recordAt_queued (channel : Fin channelCount) :
    (s.setBits (ChannelState.queued.bits channel)).recordAt channel place h =
      { s.recordAt channel place h with
        state := (s.recordAt channel place h).state.raised } :=
  Record.ext (Word.state_or_queued s.word channel) rfl rfl rfl

theorem recordAt_completed (channel : Fin channelCount) :
    (s.setBits (ChannelState.acknowledged.bits channel)).recordAt channel place h =
      { s.recordAt channel place h with state := .acknowledged } :=
  Record.ext (Word.state_or_acknowledged s.word channel) rfl rfl rfl

theorem recordAt_released (channel : Fin channelCount) :
    (s.clearBits (releaseBits channel)).recordAt channel place h =
      { s.recordAt channel place h with
        state := (s.recordAt channel place h).state.lowered } :=
  Record.ext (Word.state_clear_low s.word channel) rfl rfl rfl

end

section

variable (s : Soc) (channel : Fin channelCount) {place : Nat}
  (h : place + messageSize ≤ dramSize) (code : Code) (flags : MessageFlags) {data : List Byte}
  (hlen : data.length ≤ payloadSize)

theorem recordAt_acknowledged :
    (s.acknowledged channel flags).recordAt channel place h =
      { s.recordAt channel place h with state := flags.settled } := by
  unfold acknowledged MessageFlags.settled
  by_cases hf : flags.contains .doAck = true
  · rw [if_pos hf, if_pos hf, recordAt_completed]
  · rw [if_neg hf, if_neg hf, recordAt_released, recordAt_completed]
    rfl

include hlen

theorem recordAt_sent (line : Word) :
    (s.sent channel place code flags data line).recordAt channel place h =
      ⟨.signalled, code, flags, (s.recordAt channel place h).data.store 0 data⟩ := by
  rw [sent, recordAt_rung, recordAt_signalled, recordAt_flags, recordAt_code,
    recordAt_payload s channel h hlen]

theorem recordAt_responded (line : Word) :
    (s.responded channel place code data flags line).recordAt channel place h =
      ⟨flags.settled, code, (s.recordAt channel place h).flags,
        (s.recordAt channel place h).data.store 0 data⟩ := by
  -- The doorbell rung at the end, if any, does not show in a record.
  have hacknowledged : ((s.answered place code data).acknowledged channel flags).recordAt channel
      place h = ⟨flags.settled, code, (s.recordAt channel place h).flags,
        (s.recordAt channel place h).data.store 0 data⟩ := by
    rw [recordAt_acknowledged, answered, recordAt_code, recordAt_payload s channel h hlen]
  unfold responded
  by_cases hring : flags.contains .ringDoorbell = true
  · rw [if_pos hring, recordAt_rung, hacknowledged]
  · rw [if_neg hring, hacknowledged]

theorem recordAt_written :
    (s.written place code flags data).recordAt channel place h =
      ⟨(s.recordAt channel place h).state, code, flags,
        (s.recordAt channel place h).data.store 0 data⟩ := by
  rw [written, recordAt_payload _ channel h hlen, recordAt_flags, recordAt_code]

end

theorem records_apply (l : Layout) (s : Soc) (channel : Fin channelCount) :
    s.records l channel = s.recordAt channel (l.place channel) (l.inside channel) := rfl

/-- Clearing the low bit of an acknowledged channel frees it. -/
theorem records_freed (l : Layout) (s : Soc) (channel : Fin channelCount)
    (hacked : (s.records l channel).state = .acknowledged) :
    (s.clearBits (releaseBits channel)).records l channel =
      { s.records l channel with state := .free } := by
  rw [records_apply, recordAt_released, ← records_apply, hacked]
  rfl

/-- A posted request is written first, and its channel signalled after it. -/
theorem records_posted (l : Layout) (s : Soc) (channel : Fin channelCount) (code : Code)
    (flags : MessageFlags) {data : List Byte} (hlen : data.length ≤ payloadSize) :
    (s.posted channel (l.place channel) code flags data).records l channel =
      ⟨.signalled, code, flags, (s.records l channel).data.store 0 data⟩ := by
  rw [posted, records_apply, recordAt_signalled,
    recordAt_written s channel (l.inside channel) code flags hlen, ← records_apply]

/-- The first bytes of the payload, read from the memory or from the record. -/
theorem take_data_records (l : Layout) (s : Soc) (channel : Fin channelCount) (n : Nat) :
    (s.records l channel).data.bytes.take (min n payloadSize) =
      s.dram.load (l.place channel + payloadOffset) (min n payloadSize) := by
  rw [records_apply, recordAt, Memory.take_load, Nat.min_assoc, Nat.min_self]

/-- A change of one channel updates one record. -/
theorem records_of_changedOn (l : Layout) {channel : Fin channelCount} {s t : Soc}
    (h : ChangedOn channel (l.place channel) s t) :
    t.records l = Function.update (s.records l) channel (t.records l channel) := by
  funext other
  by_cases hne : other = channel
  · rw [hne, Function.update_self]
  · -- The message of another channel lies outside the area that may have changed.
    have hload : t.dram.load (l.place other) messageSize =
        s.dram.load (l.place other) messageSize :=
      h.load_eq (l.apart other channel hne)
    have hcontents := t.dram.contentsAt_eq_of_load (l.inside other)
      (hload.trans (s.dram.load_contentsAt (l.inside other)))
    rw [Function.update_of_ne hne]
    exact Record.ext (h.state other hne) (congrArg Contents.code hcontents)
      (congrArg Contents.flags hcontents) (congrArg Contents.data hcontents)

section Boot

variable {s : Soc} (hs : s.addresses = bootAddresses)

include hs

theorem published_boot (channel : Fin channelCount) :
    s.published channel = BitVec.ofNat 32 (dramBase + channel * messageSize) := by
  rw [published, hs, bootAddresses, Vector.getElem?_ofFn]
  simp only [channel.isLt, dif_pos, Option.getD_some]

theorem toNat_published_boot (channel : Fin channelCount) :
    (s.published channel).toNat = dramBase + channel * messageSize := by
  have hlt := channel.isLt
  -- The last address is still far below the end of the range of a word.
  rw [published_boot hs, BitVec.toNat_ofNat, Nat.mod_eq_of_lt]
  simp only [channelCount, dramBase, messageSize] at hlt ⊢
  omega

theorem placeOf_boot (channel : Fin channelCount) :
    s.placeOf channel = Layout.boot.place channel := by
  rw [placeOf, toNat_published_boot hs, Nat.add_sub_cancel_left]
  rfl

theorem placedAt_boot : s.PlacedAt Layout.boot := by
  intro channel
  have hle : dramBase ≤ (s.published channel).toNat := by
    rw [toNat_published_boot hs]
    exact Nat.le_add_right _ _
  rw [areaOffset_of_le channel.isLt hle, placeOf_boot hs]

end Boot

end Soc

/-- The firmware reads the message of a channel as its record has it. -/
theorem Firmware.message_records {l : Layout} {s : Soc} (hs : s.PlacedAt l)
    (channel : Fin channelCount) (j : List Event) :
    message channel ⟨s, j⟩ = .ok (s.records l channel).message ⟨s, j⟩ := by
  have hbytes := Soc.load_recordAt s channel (l.inside channel)
  rw [message_run (w := ⟨s, j⟩) (l.inside channel) (hs channel), hbytes, Record.ofBytes_bytes]
  rfl

/-- The state that the firmware sees is the one in the record. -/
theorem Soc.state_eq_ok_iff (l : Layout) (s : Soc) (channel : Fin channelCount)
    {state : ChannelState} :
    s.state channel = .ok state ↔ (s.records l channel).state = state := by
  rw [Soc.state_eq_ok s channel channel.isLt, Except.ok.injEq]
  rfl

/-- The messages of all records, one after the other. -/
def Records.bytes (rs : Records) : List Byte :=
  (List.finRange channelCount).flatMap fun channel => (rs channel).bytes

/-- The semaphore word is the packing of the states beside the spare bits, and
    the memory is the messages and then the rest. -/
structure Soc.Encodes (s : Soc) (rs : Records) (spare : Word) (rest : List Byte) : Prop where
  word : s.word = packed (fun channel => (rs channel).state) ||| spare
  dram : s.dram.bytes = rs.bytes ++ rest

/-- A load of some messages splits into the messages. -/
theorem Memory.load_mul {size : Nat} (m : Memory size) (width : Nat) : ∀ count : Nat,
    m.load 0 (count * width) = (List.range count).flatMap fun i => m.load (i * width) width := by
  intro count
  induction count with
  | zero => simp only [Nat.zero_mul, load, List.take_zero, List.range_zero, List.flatMap_nil]
  | succ count ih =>
      rw [Nat.succ_mul, load_add, ih, List.range_succ, List.flatMap_append, List.flatMap_singleton,
        Nat.zero_add]

/-- The records, the spare bits and the rest of the memory make up the chip. -/
theorem Soc.encodes_records (s : Soc) :
    s.Encodes (s.records Layout.boot) (s.word &&& spareBits)
      (s.dram.bytes.drop (channelCount * messageSize)) := by
  refine ⟨Word.eq_packed_or_spare s.word, ?_⟩
  have hmessages : s.dram.load 0 (channelCount * messageSize) =
      Records.bytes (s.records Layout.boot) := by
    -- The first part of the memory is twelve loads, and each of them is one message.
    rw [Memory.load_mul, ← List.map_coe_finRange_eq_range, List.flatMap_map, Records.bytes]
    refine congrArg (fun f => List.flatMap f (List.finRange channelCount)) ?_
    exact funext fun channel => Soc.load_recordAt s channel (Layout.boot.inside channel)
  rw [← hmessages, Memory.load, List.drop_zero, List.take_append_drop]

end BpmpMailbox
