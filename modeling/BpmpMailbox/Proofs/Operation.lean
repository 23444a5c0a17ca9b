import BpmpMailbox.Proofs.Record
import BpmpMailbox.Script.Step

/-!
# Operations on channels and on records

Both sides of the mailbox act on channels, and this module names what they can
do: six operations of the processor, through a mailbox and its semaphore, and
four of the firmware. Each is given twice. `Operation.run` is the operation on
the chip, with its masks and offsets. `Operation.effect` is the same operation
on twelve records, where the channel named by the operation is the only one
that it can touch.

The second definition has no preconditions. A request on a channel that is not
free, a release in the wrong state, an answer too long for a message and a
channel that does not exist all have their outcome, and in each of these the
records stay as they are.

## Main definitions

* `Operation`: What either side can do to a channel.
* `Operation.run`: An operation on the chip.
* `Operation.onRecord`, `Operation.outside`: What it does to the record of its channel, and what
  it answers when there is no such channel.
* `Operation.effect`, `Operation.trace`: An operation, or several, on all records.
* `Operation.Confined`: Nothing has changed outside the operation's channel.

## Theorems

* `Operation.onRecord_send`, `Operation.onRecord_collect`: A request and a collection whose turn
  it is.
* `Operation.send_cases`, `Operation.collect_cases`: What a request or a collection can come to.
* `Operation.effect_of_ne`: The records of other channels stay.
* `Operation.effect_error`: An operation that fails leaves every record as it is.
-/

namespace BpmpMailbox

open Script (Reply Report runStep)

/-- What either side of the mailbox can do to a channel. -/
inductive Operation where
  /-- The processor posts a request. -/
  | send (channel : Nat) (code : Code) (flags : MessageFlags) (payload : List Byte)
  /-- The processor collects a response into a buffer. -/
  | collect (channel : Nat) (buffer : List Byte)
  /-- The processor answers a request of the firmware. -/
  | respond (channel : Nat) (code : Code) (data : List Byte)
  /-- The processor signals a channel. -/
  | signal (channel : Nat)
  /-- The processor acknowledges a channel. -/
  | acknowledge (channel : Nat) (flags : MessageFlags)
  /-- The processor frees a channel. -/
  | release (channel : Nat)
  /-- The firmware takes up a request. -/
  | queue (channel : Nat)
  /-- The firmware answers a request. -/
  | complete (channel : Nat) (code : Code) (data : List Byte)
  /-- The firmware posts a request to a core. -/
  | post (core : Nat) (code : Code) (flags : MessageFlags) (data : List Byte)
  /-- The firmware frees the channel of a request that was answered. -/
  | reclaim (channel : Nat)
  deriving DecidableEq, Repr

namespace Operation

/-- The channel that an operation is about. -/
def channel : Operation → Nat
  | .send channel .. | .collect channel _ | .respond channel .. | .signal channel
  | .acknowledge channel _ | .release channel | .queue channel | .complete channel ..
  | .reclaim channel => channel
  | .post core .. => inboundBase + core

/-- An operation on the chip. -/
def run (mailbox? : Nat → Option Mailbox) (mb : Mailbox) : Operation → Action Soc Reply
  | .send channel code flags payload => do
    mb.send Soc.platform channel code flags payload
    pure .done
  | .collect channel buffer => do
    let (code, count, buffer) ← mb.collect Soc.platform channel buffer
    pure (.response code count buffer)
  | .respond channel code data => do
    mb.respond Soc.platform channel code data
    pure .done
  | .signal channel => do
    (mb.semaphore Soc.platform).signal channel
    pure .done
  | .acknowledge channel flags => do
    (mb.semaphore Soc.platform).acknowledge channel flags
    pure .done
  | .release channel => do
    (mb.semaphore Soc.platform).release channel
    pure .done
  | .queue channel => do
    Firmware.queue channel
    pure .done
  | .complete channel code data => do
    Firmware.complete channel code data
    pure .done
  | .post core code flags data => do
    let taken ← Firmware.post mailbox? core code flags data
    pure (.flag taken)
  | .reclaim channel => do
    Firmware.release channel
    pure .done

/-- What an operation answers, and what it makes of the record of its channel.
    `listening` tells which cores have a handler. -/
def onRecord (listening : Nat → Bool) : Operation → Record → Except Stop Reply × Record
  | .send channel code flags payload, r =>
    if inboundBase ≤ channel then (.error (.refused (.invalidChannel channel)), r)
    else if r.state ≠ .free then (.error (.refused (.channelBusy channel r.state)), r)
    else if payloadSize < payload.length then
      (.error (.refused (.payloadTooLarge payload.length payloadSize)), r)
    else (.ok .done, ⟨.signalled, code, flags, r.data.store 0 payload⟩)
  | .collect channel buffer, r =>
    if inboundBase ≤ channel then (.error (.refused (.invalidChannel channel)), r)
    else if r.state ≠ .acknowledged then (.error (.refused (.channelBusy channel r.state)), r)
    else
      (.ok (.response r.code (min buffer.length payloadSize)
        (r.data.bytes.take (min buffer.length payloadSize) ++
          buffer.drop (min buffer.length payloadSize))),
        { r with state := .free })
  | .respond _ code data, r =>
    if payloadSize < data.length then
      (.error (.refused (.payloadTooLarge data.length payloadSize)), r)
    else (.ok .done, ⟨r.flags.settled, code, r.flags, r.data.store 0 data⟩)
  | .signal _, r => (.ok .done, { r with state := .signalled })
  | .acknowledge _ flags, r => (.ok .done, { r with state := flags.settled })
  | .release channel, r =>
    if r.state = .acknowledged then (.ok .done, { r with state := .free })
    else (.error (.fault (.releaseOutsideAck channel)), r)
  | .queue _, r => (.ok .done, { r with state := r.state.raised })
  | .complete _ code data, r =>
    if payloadSize < data.length then (.error (.fault .firmwarePayloadTooLarge), r)
    else (.ok .done, ⟨.acknowledged, code, r.flags, r.data.store 0 data⟩)
  | .post core code flags data, r =>
    if payloadSize < data.length then (.error (.fault .firmwarePayloadTooLarge), r)
    else (.ok (.flag (listening core)), ⟨.signalled, code, flags, r.data.store 0 data⟩)
  | .reclaim _, r => (.ok .done, { r with state := r.state.lowered })

/-- What an operation answers when its channel does not exist. -/
def outside : Operation → Except Stop Reply
  | .send channel .. | .collect channel _ | .respond channel .. =>
    .error (.refused (.invalidChannel channel))
  | .signal _ | .acknowledge .. | .release _ | .queue _ | .reclaim _ => .ok .done
  | .complete .. => .error (.fault .indexOutOfBounds)
  | .post .. => .error (.fault .coreOutOfRange)

/-- An operation on all records: its answer, and the records after it. -/
def effect (listening : Nat → Bool) (op : Operation) (rs : Records) :
    Except Stop Reply × Records :=
  if h : op.channel < channelCount then
    let outcome := op.onRecord listening (rs ⟨op.channel, h⟩)
    (outcome.1, Function.update rs ⟨op.channel, h⟩ outcome.2)
  else (op.outside, rs)

/-- Operations one after the other on all records: the outcome of each. -/
def trace (listening : Nat → Bool) : Records → List Operation → List (Except Stop Reply × Records)
  | _, [] => []
  | rs, op :: ops => op.effect listening rs :: trace listening (op.effect listening rs).2 ops

theorem effect_inside (listening : Nat → Bool) {op : Operation} (rs : Records)
    (channel : Fin channelCount) (h : op.channel = channel) :
    op.effect listening rs = ((op.onRecord listening (rs channel)).1,
      Function.update rs channel (op.onRecord listening (rs channel)).2) := by
  have hlt : op.channel < channelCount := h ▸ channel.isLt
  -- The channel named by the operation is this one, whatever the proof that it exists.
  have hchannel : (⟨op.channel, hlt⟩ : Fin channelCount) = channel := Fin.ext h
  rw [effect, dif_pos hlt, hchannel]

theorem effect_outside (listening : Nat → Bool) {op : Operation} (rs : Records)
    (h : channelCount ≤ op.channel) : op.effect listening rs = (op.outside, rs) := by
  rw [effect, dif_neg (Nat.not_lt.mpr h)]

section

variable (listening : Nat → Bool)

/-- On a free channel a request that fits a message is accepted. -/
theorem onRecord_send {channel : Nat} (hout : channel < inboundBase) (code : Code)
    (flags : MessageFlags) {payload : List Byte} (hlen : payload.length ≤ payloadSize) {r : Record}
    (hfree : r.state = .free) :
    (send channel code flags payload).onRecord listening r =
      (.ok .done, ⟨.signalled, code, flags, r.data.store 0 payload⟩) := by
  rw [onRecord, if_neg (Nat.not_le.mpr hout), if_neg (not_not.mpr hfree),
    if_neg (Nat.not_lt.mpr hlen)]

/-- On an acknowledged channel there is an answer, and any buffer will do. -/
theorem onRecord_collect {channel : Nat} (hout : channel < inboundBase) (buffer : List Byte)
    {r : Record} (hacked : r.state = .acknowledged) :
    (collect channel buffer).onRecord listening r =
      (.ok (.response r.code (min buffer.length payloadSize)
        (r.data.bytes.take (min buffer.length payloadSize) ++
          buffer.drop (min buffer.length payloadSize))), { r with state := .free }) := by
  rw [onRecord, if_neg (Nat.not_le.mpr hout), if_neg (not_not.mpr hacked)]

/-- A request is refused, or it finds the channel free and puts its message there. -/
theorem send_cases (channel : Nat) (code : Code) (flags : MessageFlags) (payload : List Byte)
    (r : Record) :
    (∃ e, (send channel code flags payload).onRecord listening r = (.error (.refused e), r)) ∨
      channel < inboundBase ∧ r.state = .free ∧ payload.length ≤ payloadSize ∧
        (send channel code flags payload).onRecord listening r =
          (.ok .done, ⟨.signalled, code, flags, r.data.store 0 payload⟩) := by
  by_cases hin : inboundBase ≤ channel
  · rw [onRecord, if_pos hin]
    exact Or.inl ⟨_, rfl⟩
  · have hout := Nat.not_le.mp hin
    by_cases hfree : r.state = .free
    · by_cases hlen : payloadSize < payload.length
      · rw [onRecord, if_neg hin, if_neg (not_not.mpr hfree), if_pos hlen]
        exact Or.inl ⟨_, rfl⟩
      · have hfits := Nat.not_lt.mp hlen
        exact Or.inr ⟨hout, hfree, hfits, onRecord_send listening hout code flags hfits hfree⟩
    · rw [onRecord, if_neg hin, if_pos hfree]
      exact Or.inl ⟨_, rfl⟩

/-- A collection is refused, or it finds an answer and frees the channel. -/
theorem collect_cases (channel : Nat) (buffer : List Byte) (r : Record) :
    (∃ e, (collect channel buffer).onRecord listening r = (.error (.refused e), r)) ∨
      channel < inboundBase ∧ r.state = .acknowledged ∧
        (collect channel buffer).onRecord listening r =
          (.ok (.response r.code (min buffer.length payloadSize)
            (r.data.bytes.take (min buffer.length payloadSize) ++
              buffer.drop (min buffer.length payloadSize))), { r with state := .free }) := by
  by_cases hin : inboundBase ≤ channel
  · rw [onRecord, if_pos hin]
    exact Or.inl ⟨_, rfl⟩
  · have hout := Nat.not_le.mp hin
    by_cases hacked : r.state = .acknowledged
    · exact Or.inr ⟨hout, hacked, onRecord_collect listening hout buffer hacked⟩
    · rw [onRecord, if_neg hin, if_pos hacked]
      exact Or.inl ⟨_, rfl⟩

theorem onRecord_complete (channel : Nat) (code : Code) {data : List Byte}
    (hlen : data.length ≤ payloadSize) (r : Record) :
    (complete channel code data).onRecord listening r =
      (.ok .done, ⟨.acknowledged, code, r.flags, r.data.store 0 data⟩) := by
  rw [onRecord, if_neg (Nat.not_lt.mpr hlen)]

theorem onRecord_post (core : Nat) (code : Code) (flags : MessageFlags) {data : List Byte}
    (hlen : data.length ≤ payloadSize) (r : Record) :
    (post core code flags data).onRecord listening r =
      (.ok (.flag (listening core)), ⟨.signalled, code, flags, r.data.store 0 data⟩) := by
  rw [onRecord, if_neg (Nat.not_lt.mpr hlen)]

theorem onRecord_respond (channel : Nat) (code : Code) {data : List Byte}
    (hlen : data.length ≤ payloadSize) (r : Record) :
    (respond channel code data).onRecord listening r =
      (.ok .done, ⟨r.flags.settled, code, r.flags, r.data.store 0 data⟩) := by
  rw [onRecord, if_neg (Nat.not_lt.mpr hlen)]

end

/-- The records of other channels stay as they are. -/
theorem effect_of_ne (listening : Nat → Bool) (op : Operation) (rs : Records)
    {other : Fin channelCount} (hne : other.val ≠ op.channel) :
    (op.effect listening rs).2 other = rs other := by
  by_cases h : op.channel < channelCount
  · rw [effect_inside listening rs ⟨op.channel, h⟩ rfl]
    exact Function.update_of_ne (fun hc => hne (congrArg Fin.val hc)) _ _
  · -- There is no such channel, and no record is touched.
    rw [effect_outside listening rs (Nat.not_lt.mp h)]

theorem onRecord_error (listening : Nat → Bool) (op : Operation) (r : Record) {e : Stop}
    (h : (op.onRecord listening r).1 = .error e) : (op.onRecord listening r).2 = r := by
  -- In each case either the answer is no error or the record given back is the one received.
  cases op <;> simp only [onRecord] at h ⊢ <;> grind

/-- An operation that fails leaves every record as it is. -/
theorem effect_error (listening : Nat → Bool) (op : Operation) (rs : Records) {e : Stop}
    (h : (op.effect listening rs).1 = .error e) : (op.effect listening rs).2 = rs := by
  by_cases hlt : op.channel < channelCount
  · rw [effect_inside listening rs ⟨op.channel, hlt⟩ rfl] at h ⊢
    rw [onRecord_error listening op _ h, Function.update_eq_self]
  · rw [effect_outside listening rs (Nat.not_lt.mp hlt)]

/-- Nothing has changed outside the operation's channel, and nothing at all
    when there is no such channel. -/
def Confined (l : Layout) (op : Operation) (s t : Soc) : Prop :=
  if h : op.channel < channelCount then
    Soc.ChangedOn ⟨op.channel, h⟩ (l.place ⟨op.channel, h⟩) s t
  else t = s

end Operation

end BpmpMailbox
