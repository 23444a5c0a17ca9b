import BpmpMailbox.Proofs.Record
import BpmpMailbox.Proofs.SideBySide

/-!
# What does not depend on payload bytes

A payload lies between other things. In the memory the code and the flags of
its own message come before it and the message of another channel may follow,
and the operations that move payload bytes also read flags, set bits and ring
doorbells. None of that depends on the bytes. Here this is proved for every
function that the mailbox and the firmware are made of: on two chips that
differ in payload bytes only, it makes the same accesses, takes the same
branches and ends the same way.

The fact about the memory behind it is that the header of a message belongs to
no payload. For the message's own payload this is the order of the fields, and
for the others it is that messages do not overlap, which is part of a `Layout`.

An answer keeps the flags that it finds, and the firmware's completion writes
them back, so flags read from memory steer what happens next. What makes this
harmless is that a payload is written inside its own bytes only, which the
lengths of the data decide and not the data.

## Main definitions

* `Layout.InPayload`: The bytes that belong to a payload.
* `Soc.SameButPayloads`: Two chips that differ in payload bytes at most.
* `veil`, `veilFirst`, `Message.veiled`: Data with the payload bytes zeroed.
* `Mailbox.FitsLayout`: The windows of the mailbox hold the messages of a layout.

## Theorems

* `Layout.not_inPayload_header`: The header of a message belongs to no payload.
* `Soc.SameButPayloads.stored`, `Soc.SameButPayloads.stored_payload`: The same bytes stored
  anywhere, and any bytes stored in a payload.
* `Semaphore.acknowledge_unaffected`, `ChannelArea.InLayout.writePayload_alike`,
  `ChannelArea.InLayout.readPayload_alike`: The parts of a mailbox.
* `Mailbox.send_alike`, `Mailbox.collect_alike`, `Mailbox.respond_alike`: Its operations.
* `Firmware.complete_alike`, `Firmware.post_alike`: Those of the firmware.
-/

namespace BpmpMailbox

/-- The byte belongs to the payload of a message. -/
def Layout.InPayload (l : Layout) (i : Nat) : Prop :=
  ∃ channel, l.place channel + payloadOffset ≤ i ∧ i < l.place channel + messageSize

/-- The header of a message belongs neither to its own payload nor to another one. -/
theorem Layout.not_inPayload_header (l : Layout) (channel : Fin channelCount) {i : Nat}
    (hle : l.place channel ≤ i) (hlt : i < l.place channel + payloadOffset) :
    ¬ l.InPayload i := by
  rintro ⟨other, hstart, hstop⟩
  by_cases hsame : channel = other
  · rw [hsame] at hlt
    omega
  · have hapart := l.apart channel other hsame
    simp only [messageSize, payloadOffset] at hlt hstart hstop hapart
    omega

namespace Soc

/-- The second chip is the first one but for payload bytes. The firmware finds
    the messages where the layout has them, and handlers only take note. -/
structure SameButPayloads (l : Layout) (s t : Soc) : Prop where
  placed : s.PlacedAt l
  records : s.OnlyRecords
  byte : ∀ i, ¬ l.InPayload i → t.dram.bytes[i]? = s.dram.bytes[i]?
  rest : { t with dram := s.dram } = s

namespace SameButPayloads

variable {l : Layout} {s t : Soc}

theorem refl (hplaced : s.PlacedAt l) (hrecords : s.OnlyRecords) : SameButPayloads l s s :=
  ⟨hplaced, hrecords, fun _ _ => rfl, rfl⟩

variable (h : SameButPayloads l s t)

include h

/-- What is no matter of the memory is the same on both chips. -/
theorem view_eq {α : Type} (view : Soc → α) (hview : ∀ m, view { t with dram := m } = view t) :
    view t = view s := by
  rw [← hview s.dram, h.rest]

theorem word_eq : t.word = s.word := h.view_eq Soc.word fun _ => rfl

theorem rings_eq : t.rings = s.rings := h.view_eq Soc.rings fun _ => rfl

theorem areaOffset_eq (channel : Nat) : t.areaOffset channel = s.areaOffset channel :=
  h.view_eq (fun x => x.areaOffset channel) fun _ => rfl

theorem onlyRecords : t.OnlyRecords := by
  have hhandlers := h.view_eq Soc.handlers fun _ => rfl
  exact h.records.of_handlers_eq hhandlers

/-- A change that neither reads nor writes the memory, and moves no area and
    installs no handler. -/
theorem changed (f : Soc → Soc) (hf : ∀ x m, f { x with dram := m } = { f x with dram := m })
    (hdram : ∀ x, (f x).dram = x.dram) (haddresses : (f s).addresses = s.addresses)
    (hhandlers : (f s).handlers = s.handlers) : SameButPayloads l (f s) (f t) where
  placed channel := by
    rw [areaOffset, haddresses]
    exact h.placed channel
  records := h.records.of_handlers_eq hhandlers
  byte i hi := by
    rw [hdram, hdram]
    exact h.byte i hi
  rest := by
    rw [hdram, ← hf, h.rest]

theorem setBits (bits : Word) : SameButPayloads l (s.setBits bits) (t.setBits bits) :=
  h.changed (·.setBits bits) (fun _ _ => rfl) (fun _ => rfl) rfl rfl

theorem clearBits (bits : Word) : SameButPayloads l (s.clearBits bits) (t.clearBits bits) :=
  h.changed (·.clearBits bits) (fun _ _ => rfl) (fun _ => rfl) rfl rfl

theorem rung (line : Word) : SameButPayloads l (s.rung line) (t.rung line) :=
  h.changed (·.rung line) (fun _ _ => rfl) (fun _ => rfl) rfl rfl

/-- Different memories leave two chips the same but for payload bytes if they
    agree on all other bytes. -/
theorem stored_both {start start' : Nat} {data data' : List Byte}
    (hbyte : ∀ i, ¬ l.InPayload i →
      (t.dram.store start' data').bytes[i]? = (s.dram.store start data).bytes[i]?) :
    SameButPayloads l (s.stored start data) (t.stored start' data') where
  placed := h.placed
  records := h.records
  byte := hbyte
  rest := congrArg (fun x : Soc => { x with dram := s.dram.store start data }) h.rest

/-- The same bytes may be stored anywhere. -/
theorem stored (start : Nat) (data : List Byte) :
    SameButPayloads l (s.stored start data) (t.stored start data) := by
  refine h.stored_both fun i hi => ?_
  rw [Memory.getElem?_store, Memory.getElem?_store, h.byte i hi]

/-- In a payload any bytes may be stored, as many on both chips. -/
theorem stored_payload (channel : Fin channelCount) {data data' : List Byte}
    (hlen : data'.length = data.length) (hle : data.length ≤ payloadSize) :
    SameButPayloads l (s.stored (l.place channel + payloadOffset) data)
      (t.stored (l.place channel + payloadOffset) data') := by
  refine h.stored_both fun i hi => ?_
  -- What is stored lies in the payload, and the byte does not.
  have hout : ¬ (l.place channel + payloadOffset ≤ i ∧
      i < l.place channel + payloadOffset + data.length ∧ i < dramSize) := by
    rintro ⟨hstart, hstop, -⟩
    refine hi ⟨channel, hstart, ?_⟩
    simp only [messageSize, payloadOffset, payloadSize] at hstop hle ⊢
    omega
  rw [Memory.getElem?_store, Memory.getElem?_store, hlen, if_neg hout, if_neg hout]
  exact h.byte i hi

/-- The words of a header are the same on both chips. -/
theorem loadWord_header (channel : Fin channelCount) {offset : Nat}
    (hoffset : offset + 4 ≤ payloadOffset) :
    t.dram.loadWord (l.place channel + offset) = s.dram.loadWord (l.place channel + offset) := by
  have hload : t.dram.load (l.place channel + offset) 4 =
      s.dram.load (l.place channel + offset) 4 :=
    Memory.load_congr fun i hle hlt =>
      h.byte i (l.not_inPayload_header channel (by omega) (by omega))
  rw [Memory.loadWord, Memory.loadWord, hload]

end SameButPayloads

end Soc

/-- As many bytes, all of them zero. -/
def veil (data : List Byte) : List Byte := List.replicate data.length 0#8

/-- A buffer with its first bytes zeroed. -/
def veilFirst (count : Nat) (buffer : List Byte) : List Byte :=
  List.replicate count 0#8 ++ buffer.drop count

/-- The message with its payload bytes zeroed. -/
def Message.veiled (m : Message) : Message := { m with data := veil m.data }

theorem length_veil (data : List Byte) : (veil data).length = data.length :=
  List.length_replicate

/-- What was filled in front of the rest of a buffer is what a veil hides. -/
theorem veilFirst_append {filled : List Byte} {count : Nat} (h : filled.length = count)
    (rest : List Byte) : veilFirst count (filled ++ rest) = List.replicate count 0#8 ++ rest := by
  rw [veilFirst, List.drop_left' h]

section Semaphore

variable {σ : Type} {rel : σ → σ → Prop} {b : Bus σ}
  (hread : ∀ addr, Unaffected rel (b.read addr))
  (hwrite : ∀ addr value, Unaffected rel (b.write addr value))

namespace Semaphore

include hread

theorem field?_unaffected (channel : Nat) :
    Unaffected rel ((⟨b⟩ : Semaphore σ).field? channel) :=
  .ite (fun _ => .bind_eq (hread _) fun _ => .pure rfl) fun _ => .pure rfl

theorem state?_unaffected (channel : Nat) :
    Unaffected rel ((⟨b⟩ : Semaphore σ).state? channel) :=
  .bind_eq (field?_unaffected hread channel) fun _ => .pure rfl

theorem inState_unaffected (channel : Nat) (state : ChannelState) :
    Unaffected rel ((⟨b⟩ : Semaphore σ).inState channel state) :=
  .bind_eq (field?_unaffected hread channel) fun _ => .pure rfl

omit hread

include hwrite

theorem setBits_unaffected (channel : Nat) (bits : Word) :
    Unaffected rel ((⟨b⟩ : Semaphore σ).setBits channel bits) :=
  .ite (fun _ => hwrite _ _) fun _ => .fault _

theorem clearBits_unaffected (channel : Nat) (bits : Word) :
    Unaffected rel ((⟨b⟩ : Semaphore σ).clearBits channel bits) :=
  .ite (fun _ => hwrite _ _) fun _ => .fault _

theorem signal_unaffected (channel : Nat) :
    Unaffected rel ((⟨b⟩ : Semaphore σ).signal channel) :=
  .ite (fun _ => .bind_eq (.log _) fun _ => clearBits_unaffected hwrite _ _) fun _ => .log _

include hread

theorem release_unaffected (channel : Nat) :
    Unaffected rel ((⟨b⟩ : Semaphore σ).release channel) := by
  refine .ite (fun _ => .bind_eq (state?_unaffected hread channel) fun state? => ?_)
    fun _ => .log _
  exact .ite (fun _ => .bind_eq (.log _) fun _ => clearBits_unaffected hwrite _ _)
    fun _ => .fault _

theorem acknowledge_unaffected (channel : Nat) (flags : MessageFlags) :
    Unaffected rel ((⟨b⟩ : Semaphore σ).acknowledge channel flags) := by
  refine .ite (fun _ => .bind_eq (.log _) fun _ => ?_) fun _ => .log _
  refine .bind_eq (setBits_unaffected hwrite _ _) fun _ => ?_
  exact .ite (fun _ => .pure rfl) fun _ => release_unaffected hread hwrite channel

end Semaphore

end Semaphore

section Chip

variable {l : Layout}

/-- A read of the semaphore registers does not look at the memory. -/
theorem Region.semaphore_read_unaffected {region : Region} (hr : region.kind = .semaphore)
    (addr : Nat) :
    Unaffected (Soc.SameButPayloads l) ((Soc.platform.bus region).read addr) := by
  refine .bind_eq (.note _) fun _ => ?_
  simp only [Soc.regionBus, hr]
  refine .bind .hardware fun s t hst => .pure ?_
  rw [Soc.semaphoreRead, Soc.semaphoreRead, hst.word_eq]

theorem Region.semaphore_write_unaffected {region : Region} (hr : region.kind = .semaphore)
    (addr : Nat) (value : Word) :
    Unaffected (Soc.SameButPayloads l) ((Soc.platform.bus region).write addr value) := by
  refine .bind_eq (.note _) fun _ => ?_
  simp only [Soc.regionBus, hr]
  refine .ite (fun _ => .setHardware fun _ _ hst => hst.setBits value) fun _ => ?_
  exact .ite (fun _ => .setHardware fun _ _ hst => hst.clearBits value) fun _ => .log _

theorem Soc.ring_unaffected (line : Word) :
    Unaffected (Soc.SameButPayloads l) (Soc.platform.ring line) :=
  .bind_eq (.note _) fun _ => .setHardware fun _ _ hst => hst.rung line

theorem Soc.runningCore_unaffected :
    Unaffected (Soc.SameButPayloads l) Soc.platform.runningCore := by
  refine .bind_eq (.note _) fun _ => .bind .hardware fun s t hst => .pure ?_
  exact (hst.view_eq Soc.cpu fun _ => rfl).symm

/-- The area is a window that holds the message of a channel. -/
def ChannelArea.InLayout (l : Layout) (area : ChannelArea Soc) : Prop :=
  ∃ channel region, region.MessageAt (l.place channel) ∧ area = ⟨Soc.platform.bus region⟩

namespace ChannelArea.InLayout

variable {area : ChannelArea Soc} (h : area.InLayout l)

include h

theorem read_unaffected {offset : Nat} (hoffset : offset + 4 ≤ payloadOffset) :
    Unaffected (Soc.SameButPayloads l) (area.window.read offset) := by
  rcases h with ⟨channel, region, hplace, rfl⟩
  intro s t journal hst
  have hinside : offset + 4 ≤ messageSize := Nat.le_trans hoffset (by decide)
  rw [Region.loadWord_run hplace hinside, Region.loadWord_run hplace hinside]
  exact .ok (hst.loadWord_header channel hoffset).symm hst

theorem write_unaffected {offset : Nat} (hoffset : offset + 4 ≤ payloadOffset) (value : Word) :
    Unaffected (Soc.SameButPayloads l) (area.window.write offset value) := by
  rcases h with ⟨channel, region, hplace, rfl⟩
  intro s t journal hst
  have hinside : offset + 4 ≤ messageSize := Nat.le_trans hoffset (by decide)
  rw [Region.storeWord_run hplace hinside, Region.storeWord_run hplace hinside]
  exact .ok rfl (hst.stored _ _)

theorem code_unaffected : Unaffected (Soc.SameButPayloads l) area.code :=
  h.read_unaffected (by decide)

theorem setCode_unaffected (code : Code) :
    Unaffected (Soc.SameButPayloads l) (area.setCode code) :=
  h.write_unaffected (by decide) code

theorem flags_unaffected : Unaffected (Soc.SameButPayloads l) area.flags :=
  .bind_eq (h.read_unaffected (by decide)) fun _ => .pure rfl

theorem setFlags_unaffected (flags : MessageFlags) :
    Unaffected (Soc.SameButPayloads l) (area.setFlags flags) :=
  h.write_unaffected (by decide) flags.bits

theorem writePayload_alike {data data' : List Byte} (hlen : data'.length = data.length) :
    Alike (Soc.SameButPayloads l) Eq (area.writePayload data) (area.writePayload data') := by
  rcases h with ⟨channel, region, hplace, rfl⟩
  intro s t journal hst
  by_cases hle : data.length ≤ payloadSize
  · -- The access is noted with the number of bytes only.
    rw [writePayload_run hplace hle, writePayload_run hplace (hlen.symm ▸ hle), hlen]
    exact .ok rfl (hst.stored_payload channel hlen hle)
  · have hlarge := Nat.not_le.mp hle
    rw [writePayload_refused hlarge, writePayload_refused (hlen.symm ▸ hlarge), hlen]
    exact .error hst

theorem readPayload_alike (buffer : List Byte) :
    Alike (Soc.SameButPayloads l)
      (fun r r' => (r.1, veilFirst r.1 r.2) = (r'.1, veilFirst r'.1 r'.2))
      (area.readPayload buffer) (area.readPayload buffer) := by
  rcases h with ⟨channel, region, hplace, rfl⟩
  intro s t journal hst
  -- As many bytes are loaded on both chips as the buffer takes.
  have hlength : ∀ x : Soc, (x.dram.load (l.place channel + payloadOffset)
      (min buffer.length payloadSize)).length = min buffer.length payloadSize := by
    intro x
    have hinside := hplace.inside
    refine Memory.length_load _ _ _ ?_
    simp only [payloadOffset, payloadSize, messageSize] at hinside ⊢
    omega
  rw [readPayload_run hplace, readPayload_run hplace]
  refine .ok ?_ hst
  rw [veilFirst_append (hlength s), veilFirst_append (hlength t)]

end ChannelArea.InLayout

/-- The windows of the mailbox hold the messages of the layout, and there are no others. -/
structure Mailbox.FitsLayout (mb : Mailbox) (l : Layout) : Prop where
  placed : mb.Placed l.place
  length : mb.areas.windows.length = channelCount

namespace Mailbox

variable {mb : Mailbox} (hmb : mb.FitsLayout l)

theorem ring_unaffected (mb : Mailbox) (channel : Nat) :
    Unaffected (Soc.SameButPayloads l) ((mb.notifier Soc.platform).ring channel) :=
  .bind_eq (.log _) fun _ => Soc.ring_unaffected _

include hmb

theorem semaphore_read_unaffected (addr : Nat) :
    Unaffected (Soc.SameButPayloads l)
      ((mb.semaphore Soc.platform).registers.read addr) :=
  Region.semaphore_read_unaffected hmb.placed.semaphore addr

theorem semaphore_write_unaffected (addr : Nat) (value : Word) :
    Unaffected (Soc.SameButPayloads l)
      ((mb.semaphore Soc.platform).registers.write addr value) :=
  Region.semaphore_write_unaffected hmb.placed.semaphore addr value

/-- The area that is granted is the same on both sides, and holds a message of the layout. -/
theorem area_alike (channel : Nat) :
    Alike (Soc.SameButPayloads l) (fun area area' => area = area' ∧ area.InLayout l)
      (mb.area Soc.platform channel) (mb.area Soc.platform channel) := by
  unfold area
  split
  · rename_i window hwindow
    have hlt : channel < channelCount :=
      hmb.length ▸ (List.getElem?_eq_some_iff.mp hwindow).1
    rcases hmb.placed.window ⟨channel, hlt⟩ with ⟨region, hregion, hplace⟩
    obtain rfl : window = region := Option.some.inj (hwindow.symm.trans hregion)
    exact .pure ⟨rfl, ⟨channel, hlt⟩, window, hplace, rfl⟩
  · exact .refuse _

theorem outboundArea_alike (channel : Nat) :
    Alike (Soc.SameButPayloads l) (fun area area' => area = area' ∧ area.InLayout l)
      (mb.outboundArea Soc.platform channel) (mb.outboundArea Soc.platform channel) := by
  unfold outboundArea
  split
  · exact .ite (fun _ => area_alike hmb channel) fun _ => .refuse _
  · exact .refuse _

theorem stateOf_unaffected (channel : Nat) :
    Unaffected (Soc.SameButPayloads l) (mb.stateOf Soc.platform channel) := by
  refine .bind_eq (Semaphore.state?_unaffected (semaphore_read_unaffected hmb) channel)
    fun state? => ?_
  cases state? with
  | some state => exact .pure rfl
  | none => exact .refuse _

theorem requireState_unaffected (channel : Nat) (granted : ChannelState) :
    Unaffected (Soc.SameButPayloads l) (mb.requireState Soc.platform channel granted) :=
  .bind_eq (stateOf_unaffected hmb channel) fun _ => .ite (fun _ => .pure rfl) fun _ => .refuse _

/-- A request does not depend on the bytes that it carries. -/
theorem send_alike (channel : Nat) (code : Code) (flags : MessageFlags)
    {payload payload' : List Byte} (hlen : payload'.length = payload.length) :
    Alike (Soc.SameButPayloads l) Eq (mb.send Soc.platform channel code flags payload)
      (mb.send Soc.platform channel code flags payload') := by
  refine .bind (outboundArea_alike hmb channel) fun area _ harea => ?_
  obtain ⟨rfl, harea⟩ := harea
  refine .bind_eq (requireState_unaffected hmb channel _) fun _ => ?_
  refine .bind_eq (harea.writePayload_alike hlen) fun _ => ?_
  refine .bind_eq (harea.setCode_unaffected code) fun _ => ?_
  refine .bind_eq (harea.setFlags_unaffected flags) fun _ => ?_
  refine .bind_eq (Semaphore.signal_unaffected (semaphore_write_unaffected hmb) channel)
    fun _ => ?_
  exact ring_unaffected mb channel

/-- Of a collection only the bytes filled in depend on payload bytes. -/
theorem collect_alike (channel : Nat) (buffer : List Byte) :
    Alike (Soc.SameButPayloads l)
      (fun r r' => (r.1, r.2.1, veilFirst r.2.1 r.2.2) = (r'.1, r'.2.1, veilFirst r'.2.1 r'.2.2))
      (mb.collect Soc.platform channel buffer) (mb.collect Soc.platform channel buffer) := by
  refine .bind (outboundArea_alike hmb channel) fun area _ harea => ?_
  obtain ⟨rfl, harea⟩ := harea
  refine .bind_eq (requireState_unaffected hmb channel _) fun _ => ?_
  refine .bind_eq harea.code_unaffected fun code => ?_
  refine .bind (harea.readPayload_alike buffer) fun filled filled' hfilled => ?_
  refine .bind_eq (Semaphore.release_unaffected (semaphore_read_unaffected hmb)
    (semaphore_write_unaffected hmb) channel) fun _ => ?_
  exact .pure (congrArg (Prod.mk code) hfilled)

/-- Nor does an answer, although it reads the flags after it has written the payload. -/
theorem respond_alike (channel : Nat) (code : Code) {data data' : List Byte}
    (hlen : data'.length = data.length) :
    Alike (Soc.SameButPayloads l) Eq (mb.respond Soc.platform channel code data)
      (mb.respond Soc.platform channel code data') := by
  have hacknowledge : ∀ flags, Unaffected (Soc.SameButPayloads l) (do
      (mb.semaphore Soc.platform).acknowledge channel flags
      if flags.contains .ringDoorbell then (mb.notifier Soc.platform).ring channel
      else pure ()) := fun flags =>
    .bind_eq (Semaphore.acknowledge_unaffected (semaphore_read_unaffected hmb)
      (semaphore_write_unaffected hmb) channel flags) fun _ =>
        .ite (fun _ => ring_unaffected mb channel) fun _ => .pure rfl
  unfold respond
  rw [hlen]
  refine .ite (fun hlt => .ite (fun _ => ?_) fun _ => .bind_eq (.log _) fun _ => .refuse _)
    fun _ => .bind_eq (.log _) fun _ => .refuse _
  rcases hmb.placed.window ⟨channel, hlt⟩ with ⟨region, hregion, hplace⟩
  have hinbound : mb.areas.inbound? channel = some region := hregion
  have hview : (⟨Soc.platform.bus region⟩ : ChannelArea Soc).InLayout l :=
    ⟨⟨channel, hlt⟩, region, hplace, rfl⟩
  simp only [hinbound]
  refine .bind (area_alike hmb channel) fun area _ harea => ?_
  obtain ⟨rfl, harea⟩ := harea
  refine .bind_eq (harea.writePayload_alike hlen) fun _ => ?_
  refine .bind_eq (harea.setCode_unaffected code) fun _ => ?_
  refine .bind_eq hview.flags_unaffected fun flags => ?_
  refine .bind_eq (stateOf_unaffected hmb channel) fun state => ?_
  exact .ite (fun _ => hacknowledge flags) fun _ =>
    .bind_eq (.log _) fun _ => hacknowledge flags

end Mailbox

/-- Handlers that only take note do not look at the memory. -/
theorem Soc.fire_unaffected (mailbox? : Nat → Option Mailbox) (core : Nat) :
    Unaffected (Soc.SameButPayloads l) (Soc.fire mailbox? core) := by
  intro s t journal hst
  rw [Soc.fire_run mailbox? core _ hst.records, Soc.fire_run mailbox? core _ hst.onlyRecords]
  have hlistening : t.isListening core = s.isListening core :=
    hst.view_eq (fun x => x.isListening core) fun _ => rfl
  have hevents : t.fireEvents core = s.fireEvents core :=
    hst.view_eq (fun x => x.fireEvents core) fun _ => rfl
  simp only [hlistening, hevents]
  exact .ok rfl hst

namespace Firmware

/-- The firmware reads the same code and the same flags. -/
theorem message_alike (channel : Nat) :
    Alike (Soc.SameButPayloads l) (fun m m' => m.veiled = m'.veiled) (message channel)
      (message channel) := by
  intro s t journal hst
  by_cases hlt : channel < channelCount
  · have hplaced : t.PlacedAt l := fun c => (hst.areaOffset_eq c).trans (hst.placed c)
    rw [message_records hst.placed ⟨channel, hlt⟩, message_records hplaced ⟨channel, hlt⟩]
    refine .ok ?_ hst
    have hcode : (t.records l ⟨channel, hlt⟩).code = (s.records l ⟨channel, hlt⟩).code :=
      hst.loadWord_header ⟨channel, hlt⟩ (by decide)
    have hflags : (t.records l ⟨channel, hlt⟩).flags = (s.records l ⟨channel, hlt⟩).flags :=
      congrArg MessageFlags.mk (hst.loadWord_header ⟨channel, hlt⟩ (by decide))
    simp only [Message.veiled, Record.message, veil, hcode, hflags, Memory.length_bytes]
  · rw [message_outside (Nat.not_lt.mp hlt), message_outside (Nat.not_lt.mp hlt)]
    exact .error hst

theorem writeMessage_alike (channel : Nat) (code : Code) (flags : MessageFlags)
    {data data' : List Byte} (hlen : data'.length = data.length) :
    Alike (Soc.SameButPayloads l) Eq (writeMessage channel code flags data)
      (writeMessage channel code flags data') := by
  have hstore : ∀ start bytes, Unaffected (Soc.SameButPayloads l) (Soc.dramStore start bytes) :=
    fun start bytes => .ite (fun _ => .setHardware fun _ _ hst => hst.stored start bytes)
      fun _ => .fault _
  unfold writeMessage
  rw [hlen]
  refine .ite (fun hle => .bind .hardware fun s t hst => ?_) fun _ => .fault _
  rw [hst.areaOffset_eq]
  by_cases hlt : channel < channelCount
  · rw [hst.placed ⟨channel, hlt⟩]
    simp only [Action.ofExcept, pure_bind]
    -- The header is the same on both sides, and the payload goes to the payload's bytes.
    refine .bind_eq (hstore _ _) fun _ => .bind_eq (hstore _ _) fun _ => ?_
    unfold Soc.dramStore
    rw [hlen]
    exact .ite (fun _ => .setHardware fun _ _ hst' =>
      hst'.stored_payload ⟨channel, hlt⟩ hlen (hlen ▸ hle)) fun _ => .fault _
  · rw [Soc.areaOffset_outside s (Nat.not_lt.mp hlt)]
    exact .fault _

theorem queue_unaffected (channel : Nat) :
    Unaffected (Soc.SameButPayloads l) (queue channel) :=
  .setHardware fun _ _ hst => hst.setBits _

theorem release_unaffected (channel : Nat) :
    Unaffected (Soc.SameButPayloads l) (release channel) :=
  .setHardware fun _ _ hst => hst.clearBits _

/-- A completion does not depend on the response that it writes. The flags
    written back are those read, which are no payload bytes. -/
theorem complete_alike (channel : Nat) (code : Code) {data data' : List Byte}
    (hlen : data'.length = data.length) :
    Alike (Soc.SameButPayloads l) Eq (complete channel code data)
      (complete channel code data') := by
  refine .bind (message_alike channel) fun m m' hm => ?_
  have hflags := congrArg Message.flags hm
  simp only [Message.veiled] at hflags
  rw [hflags]
  exact .bind_eq (writeMessage_alike channel code m'.flags hlen) fun _ =>
    .setHardware fun _ _ hst => hst.setBits _

/-- Nor does a post. -/
theorem post_alike (mailbox? : Nat → Option Mailbox) (core : Nat) (code : Code)
    (flags : MessageFlags) {data data' : List Byte} (hlen : data'.length = data.length) :
    Alike (Soc.SameButPayloads l) Eq (post mailbox? core code flags data)
      (post mailbox? core code flags data') := by
  refine .bind_eq (.ofExcept _) fun channel => ?_
  refine .bind_eq (writeMessage_alike channel code flags hlen) fun _ => ?_
  refine .bind_eq (.setHardware fun _ _ hst => hst.clearBits _) fun _ => ?_
  exact Soc.fire_unaffected mailbox? core

end Firmware

end Chip

end BpmpMailbox
