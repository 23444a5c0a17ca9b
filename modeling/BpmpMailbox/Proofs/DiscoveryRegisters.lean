import BpmpMailbox.Proofs.Record
import BpmpMailbox.Proofs.Upkeep

/-!
# The discovery registers

The discovery block keeps one word, the last command. Where the areas lie is
the firmware's business and may change at any time, and a result register holds
nothing: a read of it looks at the command and at the areas as they are at that
moment. What it answers is therefore told by the past in two places. One is the
last word written to the trigger, whatever else was written where, and the
other is the last address that was published for the channel.

The block finds the channel of an address by a subtraction and a division, and
compares the command of that channel with the whole of the word it keeps. So an
address below the results or past the last of them has to come out as no
result, and so has a command that differs from the channel's in either half.
`read_answers` says this for a single read on any chip. All else is the history
of what is remembered, the command and an address for each channel, and this is
the same for all of them: the last entry of a list.

## Main definitions

* `Discovery.IsResultAddress`: Where the result of a channel is read.
* `Discovery.Answers`: What a read of the block answers, by the command and the areas.
* `DiscoveryBlock`: A region that was handed out as the discovery block.
* `DiscoveryState`: The part of the chip that discovery is about.
* `Script.ChipStep.areas`: Where the areas lie after a step of the chip or its firmware.
* `Discovery.Turn`: An access to the block, a mapping, or a step of the chip or its firmware.
* `Discovery.Turn.command?`, `Discovery.Turn.placed?`: The command that a turn gives, and where it
  places an area.
* `Discovery.leave`: The chip after some turns.
* `Discovery.lastOf`: The last of what some turns have said.
* `Discovery.Registers`: What is true of the block after some turns.

## Theorems

* `Discovery.read_answers`: A read of the block, on any chip.
* `Script.ChipStep.runStep_setAddress`, `Script.ChipStep.run_discovery`: The chip and its firmware
  do no more than to move areas.
* `Discovery.Turn.run_leaves`: What a turn leaves of the registers.
* `Discovery.leave_last`, `Discovery.leave_counted`: So do many turns.
* `Discovery.registers_exact`: The block after any turns at a fresh chip.
-/

namespace BpmpMailbox

open Script (Reply WindowStep ChipStep runStep)

namespace Discovery

/-- The result of a channel is read at this address. It is a word, and all four
    of its addresses give the same answer. -/
def IsResultAddress (channel addr : Nat) : Prop :=
  resultBase + 4 * channel ≤ addr ∧ addr < resultBase + 4 * channel + 4

/-- What a read of the discovery block answers when this is the last command
    and the areas lie at these places. -/
structure Answers (command : Word) (place : Nat → Word) (addr : Nat) (value : Word) : Prop where
  /-- The trigger gives back the command. -/
  trigger : addr = triggerAddress → value = command
  /-- The result of the channel that was asked for is where its area lies. -/
  result : ∀ channel < channelCount, IsResultAddress channel addr →
    command = discoveryCommand channel → value = place channel
  /-- Everything else is zero. -/
  silent : addr ≠ triggerAddress →
    (∀ channel < channelCount, IsResultAddress channel addr → command ≠ discoveryCommand channel) →
      value = 0#32

theorem IsResultAddress.decoded {channel addr : Nat} (h : IsResultAddress channel addr) :
    addr ≠ triggerAddress ∧ ¬ addr < resultBase ∧ (addr - resultBase) / 4 = channel := by
  unfold IsResultAddress at h
  simp only [resultBase, triggerAddress] at h ⊢
  omega

theorem isResultAddress_decoded {addr : Nat} (h : ¬ addr < resultBase) :
    IsResultAddress ((addr - resultBase) / 4) addr := by
  unfold IsResultAddress
  omega

/-- A read answers by the last command and by where the areas lie now. -/
theorem read_answers (s : Soc) (addr : Nat) :
    Answers s.trigger s.published addr (s.discoveryRead addr) where
  trigger h := by rw [Soc.discoveryRead, if_pos h]
  result channel _ haddr hcommand := by
    rcases haddr.decoded with ⟨htrigger, hbase, hchannel⟩
    rw [Soc.discoveryRead, if_neg htrigger, if_neg hbase, hchannel]
    exact if_pos hcommand
  silent htrigger h := by
    rw [Soc.discoveryRead, if_neg htrigger]
    by_cases hbase : addr < resultBase
    · rw [if_pos hbase]
    rw [if_neg hbase]
    by_cases hcommand : s.trigger = discoveryCommand ((addr - resultBase) / 4)
    · -- The command is that of the channel found, so the address is past the last channel. A
      -- large number has the command of a small one, and it is the table that has no entry.
      have hnone : s.addresses[(addr - resultBase) / 4]? = none :=
        Vector.getElem?_eq_none (Nat.not_lt.mp fun hlt =>
          h _ hlt (isResultAddress_decoded hbase) hcommand)
      simp only [if_pos hcommand, hnone, Option.getD_none]
    · exact if_neg hcommand

end Discovery

/-- A region that was handed out as the discovery block. -/
structure DiscoveryBlock where
  region : Region
  handedOut : ∃ w w', Soc.platform.mapBlock 0 w = .ok (some region) w'

namespace DiscoveryBlock

variable (block : DiscoveryBlock)

theorem kind : block.region.kind = .discovery := by
  rcases block.handedOut with ⟨w, w', hmap⟩
  exact Soc.kind_of_resource_zero (Soc.mapBlock_ok hmap).1

/-- The block as a bus. -/
def bus : Bus Soc := Soc.platform.bus block.region

variable (w : World Soc)

theorem read_run (addr : Nat) :
    block.bus.read addr w = .ok (w.hardware.discoveryRead addr)
      (w.moved w.hardware [.call (.access block.region (.read addr))]) := by
  rw [bus, Soc.platform_read]
  simp only [Soc.regionBus, block.kind]
  rw [bind_ok (hardware_run _), pure_run, World.moved_hardware]

theorem write_run (addr : Nat) (value : Word) :
    block.bus.write addr value w = .ok () (w.moved (w.hardware.discoveryWrite addr value)
      [.call (.access block.region (.write addr value))]) := by
  rw [bus, Soc.platform_write]
  simp only [Soc.regionBus, block.kind]
  rw [setHardware_moved, World.moved_moved, List.append_nil, World.moved_hardware]

/-- The block has no bytes, so a byte copy stops, and nothing has changed. -/
theorem readBytes_run (addr count : Nat) :
    block.bus.readBytes addr count w = .error (.fault .bytesOnRegisters)
      (w.moved w.hardware [.call (.access block.region (.readBytes addr count))]) := by
  rw [bus, Soc.platform_readBytes]
  simp only [Soc.regionBus, block.kind]
  exact bind_error (ofExcept_error rfl _)

theorem writeBytes_run (addr : Nat) (data : List Byte) :
    block.bus.writeBytes addr data w = .error (.fault .bytesOnRegisters)
      (w.moved w.hardware [.call (.access block.region (.writeBytes addr data.length))]) := by
  rw [bus, Soc.platform_writeBytes]
  simp only [Soc.regionBus, block.kind]
  exact bind_error (ofExcept_error rfl _)

/-- Of the accesses only a write can change the chip. -/
theorem runStep_access (s : Soc) (step : WindowStep) :
    (runStep s (step.run block.bus)).after =
      match step with
      | .write addr value => s.discoveryWrite addr value
      | _ => s := by
  cases step with
  | read addr =>
      have hrun : WindowStep.run block.bus (.read addr) ⟨s, []⟩ = _ :=
        bind_ok (block.read_run ⟨s, []⟩ addr)
      rw [runStep_ok hrun]
      rfl
  | write addr value =>
      have hrun : WindowStep.run block.bus (.write addr value) ⟨s, []⟩ = _ :=
        bind_pure_ok (block.write_run ⟨s, []⟩ addr value)
      rw [runStep_ok hrun]
      rfl
  | readBytes addr count =>
      have hrun : WindowStep.run block.bus (.readBytes addr count) ⟨s, []⟩ = _ :=
        bind_error (block.readBytes_run ⟨s, []⟩ addr count)
      rw [runStep_error hrun]
      rfl
  | writeBytes addr data =>
      have hrun : WindowStep.run block.bus (.writeBytes addr data) ⟨s, []⟩ = _ :=
        bind_error (block.writeBytes_run ⟨s, []⟩ addr data)
      rw [runStep_error hrun]
      rfl

end DiscoveryBlock

/-- The part of the chip that discovery is about. -/
structure DiscoveryState where
  trigger : Word
  discoveries : Nat
  addresses : Vector Word channelCount

/-- What discovery is about, on this chip. -/
def Soc.discovery (s : Soc) : DiscoveryState := ⟨s.trigger, s.discoveries, s.addresses⟩

/-- A chip whose firmware has not started has published no area. -/
theorem Soc.published_initial (channel : Nat) : initial.published channel = 0#32 := by
  rw [published, initial, Vector.getElem?_replicate]
  split <;> rfl

namespace Discovery

section Apart

variable {d : DiscoveryState}

theorem setHardware_apart {f : Soc → Soc} (hf : ∀ s, (f s).discovery = s.discovery) :
    Maintains (fun w => w.hardware.discovery = d) (setHardware f) :=
  Ends.setHardware fun w hw => (hf w.hardware).trans hw

theorem dramStore_apart (start : Nat) (data : List Byte) :
    Maintains (fun w => w.hardware.discovery = d) (Soc.dramStore start data) :=
  .ite (setHardware_apart fun _ => rfl) .fault

theorem writeMessage_apart (channel : Nat) (code : Code) (flags : MessageFlags)
    (data : List Byte) :
    Maintains (fun w => w.hardware.discovery = d)
      (Firmware.writeMessage channel code flags data) :=
  .ite (.bind .hardware fun _ => .bind .ofExcept fun _ => .bind (dramStore_apart _ _) fun _ =>
    .bind (dramStore_apart _ _) fun _ => dramStore_apart _ _) .fault

/-- A doorbell, where no handler has a mailbox to act on. -/
theorem fire_apart (core : Nat) :
    Maintains (fun w => w.hardware.discovery = d) (Soc.fire (fun _ => none) core) :=
  Soc.fire_maintains (fun _ _ h => by cases h) (fun _ _ _ => Ends.note fun _ hw => hw)
    (fun _ => Ends.log fun _ hw => hw) core

theorem mapBlock_apart (index : Nat) :
    Maintains (fun w => w.hardware.discovery = d) (Soc.platform.mapBlock index) := by
  refine .bind (Ends.note fun _ hw => hw) fun _ => .bind .hardware fun s => ?_
  split
  · exact .bind .hardware fun _ => .bind (setHardware_apart fun _ => rfl) fun _ => .pure
  · exact .pure

end Apart

end Discovery

namespace Script.ChipStep

open Discovery

/-- Where the areas lie after a step of the chip or its firmware. -/
def areas (addresses : Vector Word channelCount) : ChipStep → Vector Word channelCount
  | .boot => Soc.bootAddresses
  | .setAddress channel addr => addresses.setIfInBounds channel addr
  | _ => addresses

/-- One area is moved. The address of a channel that does not exist is a fault,
    and nothing has moved. -/
theorem runStep_setAddress (s : Soc) (mailbox? : Nat → Option Mailbox) (channel : Nat)
    (addr : Word) :
    (runStep s ((setAddress channel addr).run mailbox?)).after =
      { s with addresses := s.addresses.setIfInBounds channel addr } := by
  by_cases hlt : channel < channelCount
  · -- Where the channel exists, the table of addresses is changed in either way alike.
    have hset : s.addresses.setIfInBounds channel addr = s.addresses.set channel addr hlt :=
      Vector.ext fun i hi => by rw [Vector.getElem_setIfInBounds, Vector.getElem_set]
    have hmoved : s.setAddress channel addr =
        .ok { s with addresses := s.addresses.set channel addr hlt } := dif_pos hlt
    have hrun : (setAddress channel addr).run mailbox? ⟨s, []⟩ = .ok .done
        ((⟨s, []⟩ : World Soc).moved
          { s with addresses := s.addresses.set channel addr hlt } []) := by
      refine (bind_ok (hardware_run _)).trans ((bind_ok (ofExcept_ok hmoved _)).trans ?_)
      exact bind_pure_ok (setHardware_moved _ _)
    rw [runStep_ok hrun, hset, World.moved_hardware]
  · have hrun : (setAddress channel addr).run mailbox? ⟨s, []⟩ =
        .error (.fault .indexOutOfBounds) ⟨s, []⟩ :=
      (bind_ok (hardware_run _)).trans (bind_error (ofExcept_error (dif_neg hlt) _))
    rw [runStep_error hrun, Vector.setIfInBounds_eq_of_size_le (Nat.not_lt.mp hlt)]

/-- The chip and its firmware move areas, and touch nothing else of discovery. -/
theorem run_discovery (s : Soc) (step : ChipStep) :
    (runStep s (step.run fun _ => none)).after.discovery =
      ⟨s.trigger, s.discoveries, step.areas s.addresses⟩ := by
  -- A step that moves no area need only be followed as far as it stays apart.
  have happart : ∀ {act : Action Soc Reply},
      Maintains (fun w => w.hardware.discovery = s.discovery) act →
        (runStep s act).after.discovery = s.discovery := by
    intro act hact
    rw [Script.runStep_after]
    exact hact.after rfl
  cases step with
  | boot => rfl
  | setAddress channel addr =>
      rw [runStep_setAddress]
      rfl
  | setCpu | inject | queue | release =>
      exact happart (.bind (setHardware_apart fun _ => rfl) fun _ => .pure)
  | state channel => exact happart (.bind .hardware fun _ => .bind .ofExcept fun _ => .pure)
  | allRings | registered | bound => exact happart (.bind .hardware fun _ => .pure)
  | fire core => exact happart (.bind (fire_apart core) fun _ => .pure)
  | message channel => exact happart (.bind (Lasting.message channel) fun _ => .pure)
  | complete channel code data =>
      exact happart (.bind (.bind (Lasting.message channel) fun _ =>
        .bind (writeMessage_apart _ _ _ _) fun _ => setHardware_apart fun _ => rfl) fun _ => .pure)
  | post core code flags data =>
      exact happart (.bind (.bind .ofExcept fun _ => .bind (writeMessage_apart _ _ _ _) fun _ =>
        .bind (setHardware_apart fun _ => rfl) fun _ => fire_apart core) fun _ => .pure)

end Script.ChipStep

namespace Discovery

/-- A turn at the chip: an access to the discovery block, a mapping of a
    register block, or a step of the chip or its firmware. -/
inductive Turn where
  | access (block : DiscoveryBlock) (step : WindowStep)
  | map (index : Nat)
  | chip (step : ChipStep)

/-- A command asks for an area when its low half says so. -/
def asksForArea (command : Word) : Bool := command.setWidth 16 == 4#16

namespace Turn

/-- Carry out a turn. Handlers that a doorbell calls find no mailbox. -/
def run : Turn → Action Soc Reply
  | .access block step => step.run block.bus
  | .map index => do
    let region? ← Soc.platform.mapBlock index
    pure (.flag region?.isSome)
  | .chip step => step.run fun _ => none

/-- The command that a turn gives, which is what it writes to the trigger. -/
def command? : Turn → Option Word
  | .access _ (.write addr value) => if addr = triggerAddress then some value else none
  | _ => none

/-- Where a turn places the area of a channel, if it moves it at all. -/
def placed? (channel : Nat) : Turn → Option Word
  | .chip .boot => some (BitVec.ofNat 32 (dramBase + channel * messageSize))
  | .chip (.setAddress moved addr) => if moved = channel then some addr else none
  | _ => none

/-- What a turn leaves of the registers: the command is the one that it gives,
    and the area of a channel lies where it places it. -/
structure Leaves (turn : Turn) (s t : Soc) : Prop where
  trigger : t.trigger = turn.command?.getD s.trigger
  counted : t.discoveries = s.discoveries + turn.command?.toList.countP asksForArea
  published : ∀ channel < channelCount,
    t.published channel = (turn.placed? channel).getD (s.published channel)

/-- A turn that gives no command and moves no area leaves everything. -/
theorem Leaves.of_apart {turn : Turn} {s t : Soc} (h : t.discovery = s.discovery)
    (hcommand : turn.command? = none) (hplaced : ∀ channel, turn.placed? channel = none) :
    turn.Leaves s t := by
  refine ⟨?_, ?_, fun channel _ => ?_⟩
  · rw [hcommand, Option.getD_none]
    exact congrArg DiscoveryState.trigger h
  · rw [hcommand, Option.toList_none, List.countP_nil, Nat.add_zero]
    exact congrArg DiscoveryState.discoveries h
  · have haddresses : t.addresses = s.addresses := congrArg DiscoveryState.addresses h
    rw [hplaced, Option.getD_none, Soc.published, Soc.published, haddresses]

theorem asksForArea_iff (command : Word) :
    asksForArea command = true ↔ command &&& 0xffff#32 = addressCommand := by
  have hmask : (0xffff#32).toNat = 2 ^ 16 - 1 := rfl
  rw [asksForArea, beq_iff_eq, ← BitVec.toNat_inj, ← BitVec.toNat_inj, BitVec.toNat_setWidth,
    BitVec.toNat_and, hmask, Nat.and_two_pow_sub_one_eq_mod]
  rfl

/-- A write to the trigger is a command, and any other write is lost. -/
theorem leaves_write (block : DiscoveryBlock) (s : Soc) (addr : Nat) (value : Word) :
    (access block (.write addr value)).Leaves s (s.discoveryWrite addr value) := by
  by_cases h : addr = triggerAddress
  · have hcommand : (access block (.write addr value)).command? = some value := if_pos h
    rw [Soc.discoveryWrite, if_pos h]
    refine ⟨?_, ?_, fun channel _ => rfl⟩
    · rw [hcommand, Option.getD_some]
    · -- The chip masks the low half, where the count cuts it off.
      rw [hcommand, Option.toList_some, List.countP_singleton]
      simp only [asksForArea_iff]
      split <;> rfl
  · have hcommand : (access block (.write addr value)).command? = none := if_neg h
    rw [Soc.discoveryWrite, if_neg h]
    exact .of_apart rfl hcommand fun _ => rfl

theorem leaves_chip (s : Soc) (step : ChipStep) :
    (chip step).Leaves s (runStep s (chip step).run).after := by
  have hleft := step.run_discovery s
  refine ⟨congrArg DiscoveryState.trigger hleft, congrArg DiscoveryState.discoveries hleft,
    fun channel hlt => ?_⟩
  have haddresses : (runStep s (chip step).run).after.addresses = step.areas s.addresses :=
    congrArg DiscoveryState.addresses hleft
  -- What is left is about the table of addresses alone, and no longer about the run.
  rw [Soc.published, haddresses]
  cases step with
  | boot => exact Soc.published_boot (s := Soc.booted) rfl ⟨channel, hlt⟩
  | setAddress moved addr =>
      rw [ChipStep.areas, Vector.getElem?_setIfInBounds, placed?]
      by_cases h : moved = channel
      · rw [if_pos h, if_pos h, if_pos (by omega), Option.getD_some, Option.getD_some]
      · rw [if_neg h, if_neg h, Option.getD_none, Soc.published]
  | _ => rfl

/-- What a turn leaves of the registers. -/
theorem run_leaves (s : Soc) (turn : Turn) : turn.Leaves s (runStep s turn.run).after := by
  cases turn with
  | access block step =>
      rw [run, block.runStep_access]
      cases step with
      | write addr value => exact leaves_write block s addr value
      | read | readBytes | writeBytes => exact .of_apart rfl rfl fun _ => rfl
  | map index =>
      have hapart : (runStep s (map index).run).after.discovery = s.discovery := by
        rw [Script.runStep_after]
        exact Ends.after (Maintains.bind (mapBlock_apart index) fun _ => .pure) rfl
      exact .of_apart hapart rfl fun _ => rfl
  | chip step => exact leaves_chip s step

end Turn

/-- The chip after some turns, whether they came to their end or stopped. -/
def leave (s : Soc) (turns : List Turn) : Soc :=
  turns.foldl (fun s turn => (runStep s turn.run).after) s

/-- The commands given by some turns, in order. -/
def commands (turns : List Turn) : List Word := turns.filterMap Turn.command?

/-- The last of what some turns have said, or what was so before them. -/
def lastOf (said? : Turn → Option Word) (before : Word) (turns : List Turn) : Word :=
  (turns.filterMap said?).getLast?.getD before

theorem lastOf_cons (said? : Turn → Option Word) (before : Word) (turn : Turn)
    (turns : List Turn) :
    lastOf said? before (turn :: turns) = lastOf said? ((said? turn).getD before) turns := by
  unfold lastOf
  cases h : said? turn with
  | none => rw [List.filterMap_cons_none h, Option.getD_none]
  | some value =>
      rw [List.filterMap_cons_some h, List.getLast?_cons, Option.getD_some, Option.getD_some]

/-- What every turn leaves as it said, or as it was, is left as was said last. -/
theorem leave_last {said? : Turn → Option Word} (held : Soc → Word)
    (h : ∀ s turn, held (runStep s turn.run).after = (said? turn).getD (held s)) (s : Soc)
    (turns : List Turn) : held (leave s turns) = lastOf said? (held s) turns := by
  induction turns generalizing s with
  | nil => rfl
  | cons turn turns ih =>
      -- For the turns that follow, what the first one said is what was so before.
      rw [lastOf_cons, ← h]
      exact ih _

/-- Every command that asks for an area is counted. -/
theorem leave_counted (s : Soc) (turns : List Turn) :
    (leave s turns).discoveries = s.discoveries + (commands turns).countP asksForArea := by
  induction turns generalizing s with
  | nil => rfl
  | cons turn turns ih =>
      have hcommands : commands (turn :: turns) = turn.command?.toList ++ commands turns := by
        simp only [commands, List.filterMap_eq_flatMap_toList, List.flatMap_cons]
      -- The first turn has counted its own command when the others begin.
      rw [hcommands, List.countP_append, ← Nat.add_assoc, ← (turn.run_leaves s).counted]
      exact ih _

/-- What is true of the discovery block after some turns at a chip that was
    fresh before them. -/
structure Registers (past : List Turn) : Prop where
  /-- The areas lie where they were placed last. -/
  published : ∀ channel < channelCount,
    (leave .initial past).published channel = lastOf (Turn.placed? channel) 0#32 past
  /-- A read answers by the last command and by where the areas lie. -/
  read : ∀ (block : DiscoveryBlock) addr, ∃ value,
    (runStep (leave .initial past) (block.bus.read addr)).result = .ok value ∧
      Answers (lastOf Turn.command? 0#32 past) (leave .initial past).published addr value
  /-- The commands that ask for an area are counted. -/
  counted : (leave .initial past).discoveries = (commands past).countP asksForArea
  /-- Who asks for the area of a channel learns where it lies. -/
  asked : ∀ (block : DiscoveryBlock), ∀ channel < channelCount,
    (runStep (leave .initial past) (channelAddress block.bus channel)).result =
      .ok ((leave .initial past).published channel)

/-- Whatever was written to the discovery block, and however the areas were
    moved meanwhile, the block answers by the last command and by where the
    areas lie, and it has counted the commands that ask for an area. -/
theorem registers_exact (past : List Turn) : Registers past where
  published channel hlt := by
    rw [← Soc.published_initial channel]
    exact leave_last (·.published channel)
      (fun s turn => (turn.run_leaves s).published channel hlt) _ _
  read block addr := by
    have hcommand : (leave .initial past).trigger = lastOf Turn.command? 0#32 past :=
      leave_last (·.trigger) (fun s turn => (turn.run_leaves s).trigger) _ _
    rw [runStep_ok (block.read_run ⟨leave .initial past, []⟩ addr), ← hcommand]
    exact ⟨_, rfl, read_answers _ addr⟩
  counted := (leave_counted .initial past).trans (Nat.zero_add _)
  asked block channel hlt := by
    rw [DiscoveryBlock.bus, runStep_ok (channelAddress_run block.kind hlt _)]

/-- After the command of one channel its result is there, also when the area has
    moved since, and that of the next one is not. -/
example :
    let block : DiscoveryBlock := ⟨⟨.discovery, 0⟩, ⟨Soc.initial, []⟩, _, rfl⟩
    let s := leave .initial [.map 0, .chip .boot, .access block (.write 0 0x00030004#32),
      .chip (.setAddress 3 0x80000900#32)]
    (runStep s (block.bus.read 0xc0e)).result = .ok 0x80000900#32 ∧
      (runStep s (block.bus.read 0xc10)).result = .ok 0#32 ∧ s.discoveries = 1 := by
  exact ⟨rfl, rfl, rfl⟩

end Discovery

end BpmpMailbox
