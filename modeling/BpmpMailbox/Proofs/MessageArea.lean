import Mathlib.Data.List.Forall2
import BpmpMailbox.Proofs.Contents
import BpmpMailbox.Proofs.Effects.Firmware
import BpmpMailbox.Proofs.Effects.Mapping
import BpmpMailbox.Proofs.Lanes
import BpmpMailbox.Script.Bench

/-!
# Three ways to the same message

A message is written and read in three ways: through words alone, with byte
copies made of word accesses; through a window of the chip, which has byte
copies of its own; and by the firmware, which takes the bytes apart itself.
All three agree on one record, and this module proves it for any sequence of
operations.

What the first two have in common is said once. `Bus.HoldsMessage` asks of a
bus that inside one message it is memory, wherever that memory is kept in the
hardware and whatever the bus notes. The operations of an area are then those
of the record, on any such bus. The firmware does not go through a bus, and its
two accesses are set beside the operations of the area in `AreaTurn`.

## Main definitions

* `Script.AreaStep.onContents`: An operation of an area as an operation on the record.
* `AreaTurn`: An operation of an area, or an access by the firmware.
* `Bus.HoldsMessage`: Inside one message the bus is memory.
* `Follows`: A step of the hardware is a step of the record.

## Theorems

* `Script.plainWords_holds`, `Region.MessageAt.holds`: The two kinds of bus.
* `Bus.HoldsMessage.step_follows`: An operation of an area is the one on the record.
* `ChannelArea.contents_agree`: All three ways to a message agree, step by step.
-/

namespace BpmpMailbox

open Script (AreaStep Reply Report runScript runStep)

/-- What an operation of an area answers for a message, and the message that it leaves. -/
def Script.AreaStep.onContents : AreaStep → Contents → Except Stop Reply × Contents
  | .code, c => (.ok (.code c.code), c)
  | .setCode value, c => (.ok .done, { c with code := value })
  | .flags, c => (.ok (.flags c.flags), c)
  | .setFlags value, c => (.ok .done, { c with flags := value })
  | .write data, c =>
    if data.length ≤ payloadSize then (.ok .done, { c with data := c.data.store 0 data })
    else (.error (.refused (.payloadTooLarge data.length payloadSize)), c)
  | .read buffer, c =>
    (.ok (.payload (min buffer.length payloadSize)
      (c.data.bytes.take (min buffer.length payloadSize) ++
        buffer.drop (min buffer.length payloadSize))), c)

/-- What either side does to the message of one channel. -/
inductive AreaTurn where
  /-- An operation through the window of the channel. -/
  | area (step : AreaStep)
  /-- The firmware reads the message of a channel. -/
  | look (channel : Nat)
  /-- The firmware writes the message of a channel. -/
  | put (channel : Nat) (code : Code) (flags : MessageFlags) (data : List Byte)
  deriving DecidableEq, Repr

namespace AreaTurn

/-- Carry out a turn on the chip. -/
def run (region : Region) : AreaTurn → Action Soc Reply
  | .area step => step.run ⟨Soc.platform.bus region⟩
  | .look channel => do
    let message ← Firmware.message channel
    pure (.message message)
  | .put channel code flags data => do
    Firmware.writeMessage channel code flags data
    pure .done

/-- The channel that the firmware names. -/
def channel? : AreaTurn → Option Nat
  | .area _ => none
  | .look channel | .put channel .. => some channel

/-- What a turn answers for a message, and the message that it leaves. -/
def onContents : AreaTurn → Contents → Except Stop Reply × Contents
  | .area step, c => step.onContents c
  | .look _, c => (.ok (.message c.message), c)
  | .put _ code flags data, c =>
    if data.length ≤ payloadSize then (.ok .done, ⟨code, flags, c.data.store 0 data⟩)
    else (.error (.fault .firmwarePayloadTooLarge), c)

/-- The outcomes of turns one after the other. -/
def trace : Contents → List AreaTurn → List (Except Stop Reply × Contents)
  | _, [] => []
  | c, turn :: turns => turn.onContents c :: trace (turn.onContents c).2 turns

end AreaTurn

/-- Inside the message at `place` the bus is memory of the hardware: `memory`
    finds it there, and `stored` is the hardware with bytes of it replaced. -/
structure Bus.HoldsMessage {σ : Type} {size : Nat} (b : Bus σ) (place : Nat)
    (memory : σ → Memory size) (stored : σ → Nat → List Byte → σ) : Prop where
  inside : place + messageSize ≤ size
  memory_stored : ∀ s start data, memory (stored s start data) = (memory s).store start data
  read : ∀ addr, addr % 4 = 0 → addr + 4 ≤ messageSize → ∀ w : World σ, ∃ events,
    b.read addr w = .ok ((memory w.hardware).loadWord (place + addr)) (w.moved w.hardware events)
  write : ∀ addr value, addr % 4 = 0 → addr + 4 ≤ messageSize → ∀ w : World σ, ∃ events,
    b.write addr value w =
      .ok () (w.moved (stored w.hardware (place + addr) (Word.toBytes value)) events)
  readBytes : ∀ addr count, addr + count ≤ messageSize → ∀ w : World σ, ∃ events,
    b.readBytes addr count w =
      .ok ((memory w.hardware).load (place + addr) count) (w.moved w.hardware events)
  writeBytes : ∀ addr data, addr + data.length ≤ messageSize → ∀ w : World σ, ∃ events,
    b.writeBytes addr data w = .ok () (w.moved (stored w.hardware (place + addr) data) events)

/-- Words alone, each of them noted, reach the words of the memory. -/
theorem Script.plainWords_reachesWords (size : Nat) :
    ReachesWords (plainWords size).read (plainWords size).write where
  read _ _ _ _ := ⟨_, rfl⟩
  write addr value _ _ w := by
    refine ⟨[.call (.access ⟨.dram 0 size, 0⟩ (.write addr value))], ?_⟩
    refine (bind_ok (note_moved _ w)).trans ?_
    simp only [Bus.ofWords]
    rw [setHardware_moved, World.moved_moved, World.moved_hardware, List.append_nil]

/-- Memory behind words alone holds a message, the byte copies going through words. -/
theorem Script.plainWords_holds :
    (plainWords messageSize).HoldsMessage 0 id Memory.store := by
  have hwords := plainWords_reachesWords messageSize
  have hsize : messageSize < addressLimit := by decide
  refine ⟨by decide, fun _ _ _ => rfl, fun addr halign hin w => ?_,
    fun addr value halign hin w => ?_, fun addr count hin w => ?_, fun addr data hin w => ?_⟩ <;>
    rw [Nat.zero_add]
  · exact hwords.read addr halign hin w
  · exact hwords.write addr value halign hin w
  · exact readLanes_run hwords hsize count 0 w hin
  · exact writeLanes_run hwords hsize data 0 w hin

/-- So does a window of the chip that begins with a message. -/
theorem Region.MessageAt.holds {region : Region} {place : Nat} (hr : region.MessageAt place) :
    (Soc.platform.bus region).HoldsMessage place Soc.dram Soc.stored where
  inside := hr.inside
  memory_stored _ _ _ := rfl
  read _ _ hin w := ⟨_, Region.loadWord_run hr hin w⟩
  write _ value _ hin w := ⟨_, Region.storeWord_run hr hin value w⟩
  readBytes _ _ hin w := ⟨_, Region.load_run hr hin w⟩
  writeBytes _ _ hin w := ⟨_, Region.store_run hr hin w⟩

/-- The report of a step is the outcome on the record: the same answer, and
    bytes that are those of the record afterwards. A step that fails has made no access. -/
structure Follows {σ : Type} (bytes : σ → List Byte) (report : Report σ Reply)
    (outcome : Except Stop Reply × Contents) : Prop where
  result : report.result = outcome.1
  bytes : bytes report.after = outcome.2.bytes
  untouched : ∀ e, report.result = .error e → report.events = [] ∧ report.after = report.before

/-- Reports that follow the record tell the answers and the bytes of the record. -/
theorem Follows.map_eq {σ : Type} {bytes : σ → List Byte} {reports : List (Report σ Reply)}
    {outcomes : List (Except Stop Reply × Contents)}
    (h : List.Forall₂ (Follows bytes) reports outcomes) :
    reports.map (fun report => (report.result, bytes report.after)) =
      outcomes.map (fun outcome => (outcome.1, outcome.2.bytes)) := by
  induction h with
  | nil => rfl
  | cons hstep _ ih => rw [List.map_cons, List.map_cons, hstep.result, hstep.bytes, ih]

/-- The report follows the record, and of the hardware at most bytes of the
    memory have been replaced. -/
structure FollowsWithin {σ : Type} {size : Nat} (place : Nat) (memory : σ → Memory size)
    (stored : σ → Nat → List Byte → σ) (report : Report σ Reply)
    (outcome : Except Stop Reply × Contents) : Prop
    extends Follows (fun s => (memory s).load place messageSize) report outcome where
  kept : report.after = report.before ∨
    ∃ start data, report.after = stored report.before start data

namespace Bus.HoldsMessage

section

variable {σ : Type} {size place : Nat} {b : Bus σ} {memory : σ → Memory size}
  {stored : σ → Nat → List Byte → σ} (hb : b.HoldsMessage place memory stored)
  {act : Action σ Reply} {reply : Reply} {s : σ} {events : List Event}

theorem follows_of_look (h : act ⟨s, []⟩ = .ok reply (World.moved ⟨s, []⟩ s events)) :
    FollowsWithin place memory stored (runStep s act)
      (.ok reply, (memory s).contentsAt hb.inside) := by
  rw [runStep_ok h]
  exact ⟨⟨rfl, (memory s).load_contentsAt hb.inside, fun _ herror => nomatch herror⟩, Or.inl rfl⟩

theorem follows_of_store {start : Nat} {data : List Byte} {c : Contents}
    (h : act ⟨s, []⟩ = .ok reply (World.moved ⟨s, []⟩ (stored s start data) events))
    (hcontents : ((memory s).store start data).contentsAt hb.inside = c) :
    FollowsWithin place memory stored (runStep s act) (.ok reply, c) := by
  rw [runStep_ok h]
  refine ⟨⟨rfl, ?_, fun _ herror => nomatch herror⟩, Or.inr ⟨start, data, rfl⟩⟩
  rw [← hcontents, ← hb.memory_stored]
  exact (memory (stored s start data)).load_contentsAt hb.inside

theorem follows_of_error {e : Stop} (h : act ⟨s, []⟩ = .error e ⟨s, []⟩) :
    FollowsWithin place memory stored (runStep s act)
      (.error e, (memory s).contentsAt hb.inside) := by
  rw [runStep_error h]
  exact ⟨⟨rfl, (memory s).load_contentsAt hb.inside, fun _ _ => ⟨rfl, rfl⟩⟩, Or.inl rfl⟩

/-- An operation of an area is the same operation on the record of its message. -/
theorem step_follows (step : AreaStep) (s : σ) :
    FollowsWithin place memory stored (runStep s (step.run ⟨b⟩))
      (step.onContents ((memory s).contentsAt hb.inside)) := by
  cases step with
  | code =>
      rcases hb.read codeOffset rfl (by decide) ⟨s, []⟩ with ⟨events, hread⟩
      exact hb.follows_of_look (bind_ok hread)
  | setCode code =>
      rcases hb.write codeOffset code rfl (by decide) ⟨s, []⟩ with ⟨events, hwrite⟩
      exact hb.follows_of_store (bind_ok hwrite) ((memory s).contentsAt_code hb.inside code)
  | flags =>
      -- The flags are read twice, and the second reading finds what the first one found.
      rcases hb.read flagsOffset rfl (by decide) ⟨s, []⟩ with ⟨first, hfirst⟩
      rcases hb.read flagsOffset rfl (by decide) (World.moved ⟨s, []⟩ s first) with
        ⟨second, hsecond⟩
      have hrun : AreaStep.flags.run ⟨b⟩ ⟨s, []⟩ =
          .ok (.flags ((memory s).contentsAt hb.inside).flags)
            (World.moved ⟨s, []⟩ s (first ++ second)) := by
        simp only [AreaStep.run, ChannelArea.flags, bind_assoc, pure_bind]
        rw [bind_ok hfirst, bind_ok hsecond, pure_run, World.moved_moved]
        rfl
      exact hb.follows_of_look hrun
  | setFlags flags =>
      rcases hb.write flagsOffset flags.bits rfl (by decide) ⟨s, []⟩ with ⟨events, hwrite⟩
      exact hb.follows_of_store (bind_ok hwrite) ((memory s).contentsAt_flags hb.inside flags)
  | write data =>
      by_cases hlen : data.length ≤ payloadSize
      · have hin : payloadOffset + data.length ≤ messageSize := by
          simp only [payloadOffset, payloadSize, messageSize] at hlen ⊢
          omega
        rcases hb.writeBytes payloadOffset data hin ⟨s, []⟩ with ⟨events, hwrite⟩
        simp only [AreaStep.run, AreaStep.onContents, ChannelArea.writePayload, if_pos hlen]
        exact hb.follows_of_store (bind_ok hwrite) ((memory s).contentsAt_payload hb.inside hlen)
      · -- The size is looked at before anything else, so there is no access.
        simp only [AreaStep.run, AreaStep.onContents, ChannelArea.writePayload, if_neg hlen]
        exact hb.follows_of_error (bind_error (refuse_run _ _))
  | read buffer =>
      have hin : payloadOffset + min buffer.length payloadSize ≤ messageSize := by
        simp only [payloadOffset, payloadSize, messageSize]
        omega
      rcases hb.readBytes payloadOffset _ hin ⟨s, []⟩ with ⟨events, hread⟩
      have hdata : ((memory s).contentsAt hb.inside).data.bytes.take
          (min buffer.length payloadSize) =
          (memory s).load (place + payloadOffset) (min buffer.length payloadSize) := by
        rw [Memory.contentsAt, Memory.take_load, Nat.min_assoc, Nat.min_self]
      simp only [AreaStep.run, AreaStep.onContents, ChannelArea.readPayload, bind_assoc, pure_bind,
        hdata]
      exact hb.follows_of_look (bind_ok hread)

end

end Bus.HoldsMessage

/-- Steps one after the other follow the record. By induction on the steps: what
    one leaves, the next one finds, and `inv` is what the steps need besides. -/
theorem runScript_follows {σ τ : Type} {size place : Nat} (memory : σ → Memory size)
    (hin : place + messageSize ≤ size) (act : τ → Action σ Reply) (turn : τ → AreaTurn)
    (inv : σ → Prop) : ∀ (steps : List τ) (s : σ), inv s →
    (∀ step ∈ steps, ∀ s, inv s →
      Follows (fun s => (memory s).load place messageSize) (runStep s (act step))
        ((turn step).onContents ((memory s).contentsAt hin)) ∧ inv (runStep s (act step)).after) →
    List.Forall₂ (Follows fun s => (memory s).load place messageSize)
      (runScript s (steps.map act))
      (AreaTurn.trace ((memory s).contentsAt hin) (steps.map turn)) := by
  intro steps
  induction steps with
  | nil => intro s _ _; exact List.Forall₂.nil
  | cons step steps ih =>
      intro s hs hsteps
      rcases hsteps step List.mem_cons_self s hs with ⟨hstep, hinv⟩
      have hrest := ih _ hinv fun step' hmem => hsteps step' (List.mem_cons_of_mem _ hmem)
      rw [Memory.contentsAt_eq_of_load _ hin hstep.bytes] at hrest
      exact List.Forall₂.cons hstep hrest

/-- A turn of either side is the same turn on the record, if the firmware looks
    for the message where the window has it. -/
theorem AreaTurn.step_follows {region : Region} {place : Nat} (hr : region.MessageAt place)
    (turn : AreaTurn) {s : Soc}
    (hs : ∀ channel, turn.channel? = some channel → s.areaOffset channel = .ok place) :
    Follows (fun s => s.dram.load place messageSize) (runStep s (turn.run region))
        (turn.onContents (s.dram.contentsAt hr.inside)) ∧
      (runStep s (turn.run region)).after.addresses = s.addresses := by
  have hload := s.dram.load_contentsAt hr.inside
  cases turn with
  | area step =>
      have hstep := hr.holds.step_follows step s
      have hkept := hstep.kept
      rw [runStep_before] at hkept
      refine ⟨hstep.toFollows, ?_⟩
      rw [run]
      -- Replacing bytes of the memory does not move the areas.
      rcases hkept with hkept | ⟨start, data, hkept⟩ <;> rw [hkept]
      rfl
  | look channel =>
      have hlook := Firmware.message_run (w := ⟨s, []⟩) hr.inside (hs channel rfl)
      rw [hload, Contents.ofBytes_bytes] at hlook
      have hrun : (AreaTurn.look channel).run region ⟨s, []⟩ = _ := bind_ok hlook
      rw [runStep_ok hrun]
      exact ⟨⟨rfl, hload, fun _ herror => nomatch herror⟩, rfl⟩
  | put channel code flags data =>
      by_cases hlen : data.length ≤ payloadSize
      · have hrun : (AreaTurn.put channel code flags data).run region ⟨s, []⟩ = _ :=
          bind_ok (Firmware.writeMessage_run (w := ⟨s, []⟩) hr.inside (hs channel rfl) code flags
            hlen)
        have hcontents := s.dram.contentsAt_message hr.inside code flags hlen
        rw [runStep_ok hrun, onContents, if_pos hlen]
        refine ⟨⟨rfl, ?_, fun _ herror => nomatch herror⟩, rfl⟩
        rw [← hcontents]
        exact Memory.load_contentsAt _ hr.inside
      · have hrun : (AreaTurn.put channel code flags data).run region ⟨s, []⟩ = _ :=
          bind_error (Firmware.writeMessage_fault channel code flags (Nat.not_le.mp hlen) ⟨s, []⟩)
        rw [runStep_error hrun, onContents, if_neg hlen]
        exact ⟨⟨rfl, hload, fun _ _ => ⟨rfl, rfl⟩⟩, rfl⟩

/-- Operations through words alone follow the record. -/
theorem Script.plainWords_follows (steps : List AreaStep) (m : Memory messageSize) :
    List.Forall₂ (Follows Memory.bytes)
      (runScript m (steps.map (AreaStep.run ⟨plainWords messageSize⟩)))
      (AreaTurn.trace m.contents (steps.map .area)) := by
  have hholds := plainWords_holds
  have hfollows := runScript_follows id hholds.inside _ AreaTurn.area (fun _ => True) steps m
    trivial fun step _ m _ => ⟨(hholds.step_follows step m).toFollows, trivial⟩
  simp only [id, Memory.load_eq_self] at hfollows
  exact hfollows

/-- Turns on the chip follow the record, if the areas of the channels that the
    firmware names are where the window is. -/
theorem AreaTurn.runScript_follows {region : Region} {place : Nat} (hr : region.MessageAt place)
    (turns : List AreaTurn) (s : Soc)
    (hs : ∀ turn ∈ turns, ∀ channel, turn.channel? = some channel →
      s.areaOffset channel = .ok place) :
    List.Forall₂ (Follows fun s => s.dram.load place messageSize)
      (runScript s (turns.map (run region))) (trace (s.dram.contentsAt hr.inside) turns) := by
  have hfollows := BpmpMailbox.runScript_follows Soc.dram hr.inside (run region) id
    (fun t => t.addresses = s.addresses) turns s rfl fun turn hmem t ht => by
      have hstep := turn.step_follows hr (s := t) fun channel hchannel => by
        rw [Soc.areaOffset, ht]
        exact hs turn hmem channel hchannel
      exact ⟨hstep.1, hstep.2.trans ht⟩
  rwa [List.map_id] at hfollows

namespace ChannelArea

/-- A message behind words alone, the same message in a window of the chip, and
    the message that the firmware sees are one record. Every sequence of
    operations has the same answers in memory and in the window, and leaves the
    same bytes after each step, and these are the answers and the bytes of the
    record. On the chip this remains so when the firmware reads and writes the
    message in between, for a channel published where the window begins. -/
theorem contents_agree {phys size : Nat} {region : Region} {w w' : World Soc}
    (hmap : Soc.platform.mapMemory phys size w = .ok (some region) w') (hsize : messageSize ≤ size)
    {m : Memory messageSize} {s : Soc}
    (hm : s.dram.load (phys - dramBase) messageSize = m.bytes) :
    (∀ steps : List AreaStep,
      (runScript m (steps.map (AreaStep.run ⟨Script.plainWords messageSize⟩))).map
          (fun report => (report.result, report.after.bytes)) =
        (runScript s (steps.map (AreaStep.run ⟨Soc.platform.bus region⟩))).map
          (fun report => (report.result,
            report.after.dram.load (phys - dramBase) messageSize)) ∧
      List.Forall₂ (Follows Memory.bytes)
        (runScript m (steps.map (AreaStep.run ⟨Script.plainWords messageSize⟩)))
        (AreaTurn.trace m.contents (steps.map .area))) ∧
    ∀ turns : List AreaTurn,
      (∀ turn ∈ turns, ∀ channel, turn.channel? = some channel →
        ∃ addr, s.addresses[channel]? = some addr ∧ addr.toNat = phys) →
      List.Forall₂ (Follows fun s => s.dram.load (phys - dramBase) messageSize)
        (runScript s (turns.map (AreaTurn.run region))) (AreaTurn.trace m.contents turns) := by
  rcases Soc.mapMemory_ok hmap with ⟨hkind, hin⟩
  have hr : region.MessageAt (phys - dramBase) := ⟨size, hkind, hsize, hin⟩
  have hstart := Memory.contentsAt_eq_of_load s.dram hr.inside (hm.trans m.bytes_contents.symm)
  have hturns := AreaTurn.runScript_follows hr
  refine ⟨fun steps => ⟨?_, Script.plainWords_follows steps m⟩, fun turns hchannels => ?_⟩
  · -- Operations of the area alone do not name a channel.
    have hwindow := hturns (steps.map .area) s fun turn hmem channel hchannel => by
      rcases List.mem_map.mp hmem with ⟨step, -, rfl⟩
      cases hchannel
    rw [hstart, List.map_map] at hwindow
    exact (Follows.map_eq (Script.plainWords_follows steps m)).trans (Follows.map_eq hwindow).symm
  · rw [← hstart]
    refine hturns turns s fun turn hmem channel hchannel => ?_
    rcases hchannels turn hmem channel hchannel with ⟨addr, hget, hphys⟩
    exact Soc.areaOffset_of_address hget hphys (Soc.dramBase_le_of_mapMemory hmap)

/-- The first message of a chip whose firmware has just started: a payload that
    ends inside a word over a longer one, flags with unknown bits, a payload too
    long for a message, and a message that the firmware writes. -/
theorem contents_agree_booted :
    ∃ region w', Soc.platform.mapMemory dramBase messageSize ⟨Soc.booted, []⟩ =
        .ok (some region) w' ∧
      (runScript Soc.booted
        ([.area (.write [1#8, 2#8, 3#8]), .area (.write [4#8]), .area (.setFlags ⟨0x80000002#32⟩),
          .area (.write (List.replicate 121 0#8)), .area (.read [9#8, 9#8]), .area .flags,
          .put 0 7#32 .empty [5#8], .area .code].map (AreaTurn.run region))).map (·.result) =
        [.ok .done, .ok .done, .ok .done, .error (.refused (.payloadTooLarge 121 120)),
          .ok (.payload 2 [4#8, 2#8]), .ok (.flags ⟨0x80000002#32⟩), .ok .done,
          .ok (.code 7#32)] := by
  have hmap : Soc.platform.mapMemory dramBase messageSize ⟨Soc.booted, []⟩ = _ :=
    Soc.platform_mapMemory _ _ _
  rw [if_neg nofun, if_neg (by decide), if_neg (by decide), if_pos (by decide)] at hmap
  have hzero : Soc.booted.dram.load (dramBase - dramBase) messageSize =
      (Memory.zero messageSize).bytes := by
    rw [Nat.sub_self, Memory.load, List.drop_zero]
    exact List.take_replicate
  have hturns := (contents_agree hmap (Nat.le_refl _) hzero).2
    [.area (.write [1#8, 2#8, 3#8]), .area (.write [4#8]), .area (.setFlags ⟨0x80000002#32⟩),
      .area (.write (List.replicate 121 0#8)), .area (.read [9#8, 9#8]), .area .flags,
      .put 0 7#32 .empty [5#8], .area .code] (by
        intro turn hmem channel hchannel
        have hzeroth : channel = 0 := by
          simp only [List.mem_cons, List.not_mem_nil, or_false] at hmem
          rcases hmem with rfl | rfl | rfl | rfl | rfl | rfl | rfl | rfl <;> cases hchannel
          rfl
        rw [hzeroth]
        exact ⟨_, rfl, rfl⟩)
  -- The answers on the record are computed, and those of the chip are the same.
  have hanswers := congrArg (List.map Prod.fst) (Follows.map_eq hturns)
  rw [List.map_map, List.map_map] at hanswers
  exact ⟨_, _, hmap, hanswers.trans (by decide +kernel)⟩

end ChannelArea

end BpmpMailbox
