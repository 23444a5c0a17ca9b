import BpmpMailbox.Proofs.Effects.Firmware
import BpmpMailbox.Proofs.PhysicalMemory
import BpmpMailbox.Proofs.Upkeep

/-!
# What the firmware does to the memory

The firmware holds no window. It reads and writes messages in the memory itself,
at the addresses that are published, and it checks no more than that it stays
inside the memory. What it reads is then told by what lies at these addresses,
and what it does is a list of writes to them.

A message goes into the memory in three stores. One that would leave the memory
stops the firmware, and those before it stay done, so the list ends there. The
addresses are words and may be published anywhere, so this does happen.

## Main definitions

* `Soc.area?`: Where the firmware finds the area of a channel.
* `Soc.message?`: The message that it finds there.
* `Soc.messageWrites`: What it writes when it writes one.
* `Script.ChipStep.writes`: What a step of the chip or its firmware writes.

## Theorems

* `message_reads`: The firmware reads what lies in the area, or stops.
* `writeMessage_rewrites`: Writing a message does its writes, also when it stops.
* `Script.ChipStep.run_rewrites`: So does every step of the chip.
-/

namespace BpmpMailbox

/-- Whether a write ends inside the memory. -/
def MemoryWrite.fits (write : MemoryWrite) : Bool :=
  write.start + write.data.length ≤ dramBase + dramSize

namespace Soc

/-- The physical address at which the firmware finds the area of a channel, if
    it was not published below the memory. -/
def area? (s : Soc) (channel : Nat) : Option Nat :=
  (s.addresses[channel]?.map BitVec.toNat).filter fun phys => decide (dramBase ≤ phys)

/-- The message that the firmware finds in the area of a channel, if all of it
    lies in the memory. -/
def message? (s : Soc) (channel : Nat) : Option Message :=
  ((s.area? channel).filter fun phys => decide (phys + messageSize ≤ dramBase + dramSize)).map
    fun phys => .ofBytes (s.dram.load (phys - dramBase) messageSize)

/-- What the firmware writes when it writes a message: code, flags and payload,
    up to the first of them that leaves the memory. -/
def messageWrites (s : Soc) (channel : Nat) (code : Code) (flags : MessageFlags)
    (data : List Byte) : List MemoryWrite :=
  match s.area? channel with
  | some phys =>
    if data.length ≤ payloadSize then
      [⟨phys + codeOffset, Word.toBytes code⟩, ⟨phys + flagsOffset, Word.toBytes flags.bits⟩,
        ⟨phys + payloadOffset, data⟩].takeWhile MemoryWrite.fits
    else []
  | none => []

/-- What it writes when it completes a request. The flags that were found with
    the request are written again. -/
def completionWrites (s : Soc) (channel : Nat) (code : Code) (data : List Byte) :
    List MemoryWrite :=
  match s.message? channel with
  | some request => s.messageWrites channel code request.flags data
  | none => []

/-- What it writes when it posts a request to a core. -/
def postWrites (s : Soc) (core : Nat) (code : Code) (flags : MessageFlags) (data : List Byte) :
    List MemoryWrite :=
  if core < coreCount then s.messageWrites (inboundBase + core) code flags data else []

theorem areaOffset_of_area? {s : Soc} {channel phys : Nat} (h : s.area? channel = some phys) :
    dramBase ≤ phys ∧ s.areaOffset channel = .ok (phys - dramBase) := by
  rw [area?, Option.filter_eq_some_iff, Option.map_eq_some_iff, decide_eq_true_iff] at h
  rcases h with ⟨⟨addr, haddr, rfl⟩, hbase⟩
  exact ⟨hbase, areaOffset_of_address haddr rfl hbase⟩

theorem areaOffset_of_area?_none {s : Soc} {channel : Nat} (h : s.area? channel = none) :
    ∃ f, s.areaOffset channel = .error f := by
  rw [area?, Option.filter_eq_none_iff] at h
  unfold areaOffset
  cases haddr : s.addresses[channel]? with
  | none => exact ⟨_, rfl⟩
  | some addr =>
      have hbelow := h addr.toNat (by rw [haddr, Option.map_some])
      rw [decide_eq_true_iff] at hbelow
      simp only [subSize, if_neg hbelow]
      exact ⟨_, rfl⟩

/-- A message that lies in the memory is read off the bytes at its address. -/
theorem message?_of_area? {s : Soc} {channel phys : Nat} (h : s.area? channel = some phys)
    (hin : phys + messageSize ≤ dramBase + dramSize) :
    ∃ bytes, bytes.length = messageSize ∧ s.Holds phys bytes ∧
      s.message? channel = some (.ofBytes bytes) := by
  rcases Nat.exists_eq_add_of_le (areaOffset_of_area? h).1 with ⟨place, rfl⟩
  refine ⟨s.dram.load place messageSize, Memory.length_load _ _ _ (by omega), s.holds_load _ _, ?_⟩
  rw [message?, h, Option.filter_some, if_pos (decide_eq_true hin), Option.map_some,
    Nat.add_sub_cancel_left]

end Soc

section Firmware

variable {s : Soc} {writes : List MemoryWrite}

/-- A store is one more write, or it leaves the memory and is none. -/
theorem dramStore_ends (place : Nat) (data : List Byte) :
    Ends (fun w => s.Rewritten w.hardware writes) (Soc.dramStore place data)
      (fun _ w => (⟨dramBase + place, data⟩ : MemoryWrite).fits = true ∧
        s.Rewritten w.hardware (writes ++ [⟨dramBase + place, data⟩]))
      (fun _ w => (⟨dramBase + place, data⟩ : MemoryWrite).fits = false ∧
        s.Rewritten w.hardware writes) := by
  intro w hw
  simp only [MemoryWrite.fits, Nat.add_assoc, Nat.add_le_add_iff_left, decide_eq_true_iff,
    decide_eq_false_iff_not]
  by_cases hin : place + data.length ≤ dramSize
  · rw [Soc.dramStore_run hin]
    exact ⟨hin, hw.trans (Soc.rewritten_stored _ hin)⟩
  · rw [Soc.dramStore, if_neg hin]
    exact ⟨hin, hw⟩

/-- Three stores are writes, up to the first that leaves the memory. -/
theorem dramStores_ends (place₁ place₂ place₃ : Nat) (data₁ data₂ data₃ : List Byte) :
    Ends (fun w => s.Rewritten w.hardware [])
      (do
        Soc.dramStore place₁ data₁
        Soc.dramStore place₂ data₂
        Soc.dramStore place₃ data₃)
      (fun _ w => s.Rewritten w.hardware ([⟨dramBase + place₁, data₁⟩, ⟨dramBase + place₂, data₂⟩,
        ⟨dramBase + place₃, data₃⟩].takeWhile MemoryWrite.fits))
      (fun _ w => s.Rewritten w.hardware ([⟨dramBase + place₁, data₁⟩, ⟨dramBase + place₂, data₂⟩,
        ⟨dramBase + place₃, data₃⟩].takeWhile MemoryWrite.fits)) := by
  -- Which stores fit decides how long the list is, so it is carried from one to the next.
  refine Ends.bind ((dramStore_ends place₁ data₁).mono (fun _ hw => hw) (fun _ _ hw => hw)
    fun _ _ hw => ?_) fun _ => Ends.assume fun hfirst => ?_
  · simpa only [List.takeWhile, hw.1, List.nil_append, List.cons_append] using hw.2
  refine Ends.bind ((dramStore_ends place₂ data₂).mono (fun _ hw => hw) (fun _ _ hw => hw)
    fun _ _ hw => ?_) fun _ => Ends.assume fun hsecond => ?_
  · simpa only [List.takeWhile, hfirst, hw.1, List.nil_append, List.cons_append] using hw.2
  refine (dramStore_ends place₃ data₃).mono (fun _ hw => hw) (fun _ _ hw => ?_) fun _ _ hw => ?_
  · simpa only [List.takeWhile, hfirst, hsecond, hw.1, List.nil_append, List.cons_append]
      using hw.2
  · simpa only [List.takeWhile, hfirst, hsecond, hw.1, List.nil_append, List.cons_append]
      using hw.2

/-- What a message that is written has done to the memory, whether all of it was
    written or not. -/
theorem writeMessage_rewrites (channel : Nat) (code : Code) (flags : MessageFlags)
    (data : List Byte) :
    Ends (fun w => w.hardware = s) (Firmware.writeMessage channel code flags data)
      (fun _ w => s.Rewritten w.hardware (s.messageWrites channel code flags data))
      (fun _ w => s.Rewritten w.hardware (s.messageWrites channel code flags data)) := by
  rintro w rfl
  have hnothing : w.hardware.Rewritten w.hardware [] := .of_dram_eq rfl
  unfold Firmware.writeMessage Soc.messageWrites
  by_cases hlen : data.length ≤ payloadSize
  · rw [if_pos hlen, bind_ok (hardware_run w)]
    cases harea : w.hardware.area? channel with
    | none =>
        rcases Soc.areaOffset_of_area?_none harea with ⟨f, hoffset⟩
        rw [bind_error (ofExcept_error hoffset w)]
        exact hnothing
    | some phys =>
        rcases Soc.areaOffset_of_area? harea with ⟨hbase, hoffset⟩
        rcases Nat.exists_eq_add_of_le hbase with ⟨place, rfl⟩
        rw [Nat.add_sub_cancel_left] at hoffset
        rw [bind_ok (ofExcept_ok hoffset w)]
        simp only [if_pos hlen, Nat.add_assoc]
        exact dramStores_ends _ _ _ _ _ _ w hnothing
  · -- The size is checked before the area is looked for, and nothing is written either way.
    rw [if_neg hlen]
    cases w.hardware.area? channel with
    | none => exact hnothing
    | some phys =>
        simp only [if_neg hlen]
        exact hnothing

/-- The firmware reads the message that lies in the area, or stops. -/
theorem message_reads (channel : Nat) (w : World Soc) :
    match w.hardware.message? channel with
    | some message => Firmware.message channel w = .ok message w
    | none => ∃ f, Firmware.message channel w = .error (.fault f) w := by
  unfold Soc.message? Firmware.message
  rw [bind_ok (hardware_run w)]
  cases harea : w.hardware.area? channel with
  | none =>
      rcases Soc.areaOffset_of_area?_none harea with ⟨f, hoffset⟩
      exact ⟨f, bind_error (ofExcept_error hoffset w)⟩
  | some phys =>
      rcases Soc.areaOffset_of_area? harea with ⟨hbase, hoffset⟩
      rcases Nat.exists_eq_add_of_le hbase with ⟨place, rfl⟩
      rw [Nat.add_sub_cancel_left] at hoffset
      rw [bind_ok (ofExcept_ok hoffset w)]
      by_cases hin : place + messageSize ≤ dramSize
      · have hfits : dramBase + place + messageSize ≤ dramBase + dramSize := by omega
        simp only [Option.filter_some, hfits, decide_true, if_true, Option.map_some,
          Nat.add_sub_cancel_left]
        rw [bind_ok (Soc.dramLoad_run hin w), pure_run]
      · have hout : ¬ dramBase + place + messageSize ≤ dramBase + dramSize := by omega
        simp only [Option.filter_some, hout, decide_false, Bool.false_eq_true, if_false,
          Option.map_none]
        refine ⟨.indexOutOfBounds, bind_error ?_⟩
        rw [Soc.dramLoad, bind_ok (hardware_run w), if_neg hin, fault_run]

/-- A change of the chip outside its memory. -/
theorem setHardware_rewrites {f : Soc → Soc} (hf : ∀ t, (f t).dram = t.dram) :
    Maintains (fun w => s.Rewritten w.hardware writes) (setHardware f) :=
  Ends.setHardware fun _ hw => hw.congr (hf _)

/-- A doorbell, where no handler has a mailbox to act on. -/
theorem fire_rewrites (core : Nat) :
    Maintains (fun w => s.Rewritten w.hardware writes) (Soc.fire (fun _ => none) core) :=
  Soc.fire_maintains (fun _ _ h => by cases h) (fun _ _ _ => Ends.note fun _ hw => hw)
    (fun _ => Ends.log fun _ hw => hw) core

theorem complete_rewrites (channel : Nat) (code : Code) (data : List Byte) :
    Ends (fun w => w.hardware = s) (Firmware.complete channel code data)
      (fun _ w => s.Rewritten w.hardware (s.completionWrites channel code data))
      (fun _ w => s.Rewritten w.hardware (s.completionWrites channel code data)) := by
  rintro w rfl
  have hread := message_reads channel w
  unfold Firmware.complete Soc.completionWrites
  cases hmessage : w.hardware.message? channel with
  | none =>
      rw [hmessage] at hread
      rcases hread with ⟨f, hread⟩
      rw [bind_error hread]
      exact .of_dram_eq rfl
  | some request =>
      rw [hmessage] at hread
      rw [bind_ok hread]
      refine Ends.bind (writeMessage_rewrites channel code request.flags data) (fun _ => ?_) w rfl
      exact setHardware_rewrites fun _ => rfl

theorem post_rewrites (core : Nat) (code : Code) (flags : MessageFlags) (data : List Byte) :
    Ends (fun w => w.hardware = s) (Firmware.post (fun _ => none) core code flags data)
      (fun _ w => s.Rewritten w.hardware (s.postWrites core code flags data))
      (fun _ w => s.Rewritten w.hardware (s.postWrites core code flags data)) := by
  rintro w rfl
  unfold Firmware.post Soc.postWrites
  by_cases hcore : core < coreCount
  · rw [if_pos hcore, bind_ok (ofExcept_ok (Firmware.inboundIndex_ok hcore) w)]
    refine Ends.bind (writeMessage_rewrites _ code flags data) (fun _ => ?_) w rfl
    exact .bind (setHardware_rewrites fun _ => rfl) fun _ => fire_rewrites core
  · have hindex : inboundIndex core = .error .coreOutOfRange := by
      rw [inboundIndex, if_neg hcore]
    rw [if_neg hcore, bind_error (ofExcept_error hindex w)]
    exact .of_dram_eq rfl

end Firmware

namespace Script.ChipStep

/-- What a step of the chip or its firmware writes. -/
def writes (s : Soc) : ChipStep → List MemoryWrite
  | .complete channel code data => s.completionWrites channel code data
  | .post core code flags data => s.postWrites core code flags data
  | _ => []

/-- What a step of the chip has done to the memory, whether it came to its end
    or stopped. -/
theorem run_rewrites (s : Soc) (step : ChipStep) :
    Ends (fun w => w.hardware = s) (step.run fun _ => none)
      (fun _ w => s.Rewritten w.hardware (step.writes s))
      (fun _ w => s.Rewritten w.hardware (step.writes s)) := by
  -- A step that writes nothing need only be followed as far as it maintains this.
  have hquiet : ∀ {act : Action Soc Reply},
      Maintains (fun w => s.Rewritten w.hardware []) act →
        Ends (fun w => w.hardware = s) act (fun _ w => s.Rewritten w.hardware [])
          (fun _ w => s.Rewritten w.hardware []) :=
    fun hact => hact.of_imp fun w hw => by rw [hw]; exact .of_dram_eq rfl
  cases step with
  | boot | setCpu | inject | queue | release =>
      exact hquiet (.bind (setHardware_rewrites fun _ => rfl) fun _ => .pure)
  | setAddress channel addr =>
      -- The chip that is put in place differs from the one looked at by an address.
      refine hquiet (Ends.hardware_bind fun t => Ends.bind
        (M := fun t' w => t'.dram = w.hardware.dram ∧ s.Rewritten w.hardware [])
        (Ends.ofExcept ?_ fun _ _ _ hw => hw.1) fun t' => Ends.bind
          (Ends.setHardware fun w hw => hw.2.congr hw.1) fun _ => Maintains.pure)
      rintro t' ht' w ⟨hw, rfl⟩
      unfold Soc.setAddress at ht'
      split at ht'
      · injection ht' with ht'
        exact ⟨by rw [← ht'], hw⟩
      · cases ht'
  | state channel => exact hquiet (.bind .hardware fun _ => .bind .ofExcept fun _ => .pure)
  | allRings | registered | bound => exact hquiet (.bind .hardware fun _ => .pure)
  | fire core => exact hquiet (.bind (fire_rewrites core) fun _ => .pure)
  | message channel => exact hquiet (.bind (Lasting.message channel) fun _ => .pure)
  | complete channel code data =>
      exact .bind (complete_rewrites channel code data) fun _ => Maintains.pure
  | post core code flags data =>
      exact .bind (post_rewrites core code flags data) fun _ => Maintains.pure

end Script.ChipStep

end BpmpMailbox
