import BpmpMailbox.Proofs.Effects.Connect

/-!
# Handing regions out and taking them back

What the chip's mapping calls do, each as one run. A region handed out gets the
number of regions handed out before it as its ticket, so the tickets of a chip
are the numbers below its count, each used once. A region taken back is noted
and counted, and nothing else happens to it: the region could be used as
before, and only the order of the journal tells that it must not be.

A register block answers every word access. The only stop among these calls is
a mapping whose end does not fit an address, and the address of an area is a
32-bit word, so this takes a window near the top of the address range.

## Main definitions

* `Soc.handedOut`, `Soc.takenBack`, `Soc.counted`: The chip after a mapping call.
* `Region.IsBlock`: The region is a register block.

## Theorems

* `Soc.platform_mapBlock`, `Soc.platform_unmap`: Blocks are handed out, regions taken back.
* `Soc.resource_cases`: The two register blocks.
* `Soc.platform_mapMemory`, `Soc.dramBase_le_of_mapMemory`: The ways in which a mapping of memory
  ends.
* `Soc.dramBase_le_of_connect`: Where the areas of a connected mailbox were published.
* `Region.block_read_run`, `Region.trigger_write_run`: Register blocks answer.
-/

namespace BpmpMailbox

namespace Soc

/-- The chip after it has handed out a region. -/
def handedOut (s : Soc) : Soc :=
  { s with liveRegions := s.liveRegions + 1#64, handouts := s.handouts + 1 }

/-- The chip after it has taken a region back. -/
def takenBack (s : Soc) : Soc := { s with liveRegions := s.liveRegions - 1#64 }

/-- The chip after it was asked to map memory. -/
def counted (s : Soc) : Soc := { s with memoryMappings := s.memoryMappings + 1 }

theorem handOut_run (kind : RegionKind) (w : World Soc) :
    handOut kind w = .ok (some ⟨kind, w.hardware.handouts⟩) (w.moved w.hardware.handedOut []) := by
  unfold handOut
  rw [bind_ok (hardware_run w), bind_ok (setHardware_moved _ w), pure_run]
  rfl

theorem platform_mapBlock (index : Nat) (w : World Soc) :
    platform.mapBlock index w =
      match w.hardware.resource? index with
      | some kind =>
        .ok (some ⟨kind, w.hardware.handouts⟩)
          (w.moved w.hardware.handedOut [.call (.mapBlock index)])
      | none => .ok none (w.moved w.hardware [.call (.mapBlock index)]) := by
  simp only [platform]
  rw [bind_ok (note_moved _ w)]
  unfold mapBlock
  rw [bind_ok (hardware_run _), World.moved_hardware]
  cases w.hardware.resource? index with
  | none => rfl
  | some kind =>
      simp only
      rw [handOut_run, World.moved_moved, List.append_nil, World.moved_hardware]

theorem mapBlock_present {index : Nat} {kind : RegionKind} {w : World Soc}
    (h : w.hardware.resource? index = some kind) :
    platform.mapBlock index w = .ok (some ⟨kind, w.hardware.handouts⟩)
      (w.moved w.hardware.handedOut [.call (.mapBlock index)]) := by
  rw [platform_mapBlock]
  simp only [h]

/-- A mapping of memory hands out the window that was asked for, or nothing, or
    its end does not fit an address. -/
theorem platform_mapMemory (phys size : Nat) (w : World Soc) :
    platform.mapMemory phys size w =
      if w.hardware.faults.failingMapping = some w.hardware.memoryMappings then
        .ok none (w.moved w.hardware.counted [.call (.mapMemory phys size)])
      else if phys < dramBase then
        .ok none (w.moved w.hardware.counted [.call (.mapMemory phys size)])
      else if addressLimit ≤ phys + size then
        .error (.fault (.overflow .add))
          (w.moved w.hardware.counted [.call (.mapMemory phys size)])
      else if phys + size ≤ dramBase + dramSize then
        .ok (some ⟨.dram (phys - dramBase) size, w.hardware.handouts⟩)
          (w.moved w.hardware.counted.handedOut [.call (.mapMemory phys size)])
      else .ok none (w.moved w.hardware.counted [.call (.mapMemory phys size)]) := by
  simp only [platform]
  rw [bind_ok (note_moved _ w)]
  unfold mapMemory
  rw [bind_ok (hardware_run _), bind_ok (setHardware_moved _ _), World.moved_moved,
    List.append_nil, World.moved_hardware]
  by_cases hfailing : w.hardware.faults.failingMapping = some w.hardware.memoryMappings
  · rw [if_pos hfailing, if_pos hfailing]
    rfl
  · rw [if_neg hfailing, if_neg hfailing]
    by_cases hbelow : phys < dramBase
    · rw [if_pos hbelow, if_pos hbelow]
      rfl
    · rw [if_neg hbelow, if_neg hbelow]
      by_cases hlimit : addressLimit ≤ phys + size
      · rw [if_pos hlimit, bind_error (ofExcept_error (addSize_of_le hlimit) _)]
        rfl
      · rw [if_neg hlimit, bind_ok (ofExcept_ok (addSize_of_lt (Nat.not_le.mp hlimit)) _)]
        by_cases hin : phys + size ≤ dramBase + dramSize
        · rw [if_pos hin, if_pos hin, handOut_run, World.moved_moved, List.append_nil]
          rfl
        · rw [if_neg hin, if_neg hin]
          rfl

/-- Only memory that the chip has is handed out. -/
theorem dramBase_le_of_mapMemory {phys size : Nat} {region : Region} {w w' : World Soc}
    (h : platform.mapMemory phys size w = .ok (some region) w') : dramBase ≤ phys := by
  rw [platform_mapMemory] at h
  by_cases hbelow : phys < dramBase
  · -- Below the memory nothing is handed out, whether or not the mapping is made to fail.
    simp only [if_pos hbelow, ite_self, EStateM.Result.ok.injEq, reduceCtorEq, false_and] at h
  · exact Nat.not_lt.mp hbelow

/-- Every area of a mailbox that was connected was published inside the memory. -/
theorem dramBase_le_of_connect {config : Configuration} (hdiscovery : config.discoveryBlock = 0)
    (hsemaphore : config.semaphoreBlock = 1) {mb : Mailbox} {w w' : World Soc}
    (h : Mailbox.connect Soc.platform config w = .ok mb w') {channel : Nat}
    (hlt : channel < channelCount) : dramBase ≤ (w.hardware.published channel).toNat := by
  have hwindows := Mailbox.windows_of_connect hdiscovery hsemaphore h
    (fun addr _ => dramBase ≤ addr.toNat) fun _ _ _ _ _ => dramBase_le_of_mapMemory
  rcases hwindows.2.2 channel hlt with ⟨-, -, hle⟩
  exact hle

theorem platform_unmap (region : Region) (w : World Soc) :
    platform.unmap region w = .ok () (w.moved w.hardware.takenBack [.call (.unmap region)]) := by
  simp only [platform]
  rw [bind_ok (note_moved _ w)]
  unfold unmap
  rw [setHardware_moved, World.moved_moved, List.append_nil]
  rfl

end Soc

/-- The region is a register block, as opposed to a window of memory. -/
def Region.IsBlock (region : Region) : Prop :=
  region.kind = .discovery ∨ region.kind = .semaphore

/-- There are two register blocks, each under its own number. -/
theorem Soc.resource_cases {s : Soc} {index : Nat} {kind : RegionKind}
    (h : s.resource? index = some kind) :
    index = 0 ∧ kind = .discovery ∨ index = 1 ∧ kind = .semaphore := by
  unfold resource? at h
  split at h
  · cases h
  · split at h
    · exact Or.inl ⟨‹_›, (Option.some.inj h).symm⟩
    · split at h
      · exact Or.inr ⟨‹_›, (Option.some.inj h).symm⟩
      · cases h

/-- Both register blocks are there unless one is made to be missing. -/
theorem Soc.resource_of_present {s : Soc} (h : s.faults.missingBlock = none) :
    s.resource? 0 = some .discovery ∧ s.resource? 1 = some .semaphore := by
  have hthere : ∀ index, s.faults.missingBlock ≠ some index := by
    rw [h]
    exact fun _ => nofun
  refine ⟨?_, ?_⟩
  · rw [resource?, if_neg (hthere 0), if_pos rfl]
  · rw [resource?, if_neg (hthere 1), if_neg Nat.one_ne_zero, if_pos rfl]

theorem Soc.isBlock_of_resource {s : Soc} {index : Nat} {region : Region}
    (h : s.resource? index = some region.kind) : region.IsBlock :=
  (Soc.resource_cases h).imp And.right And.right

section

variable {region : Region} (hr : region.IsBlock)

include hr

/-- A register block answers every read, and does not change. -/
theorem Region.block_read_run (addr : Nat) (w : World Soc) :
    ∃ value, (Soc.platform.bus region).read addr w =
      .ok value (w.moved w.hardware [.call (.access region (.read addr))]) := by
  rw [Soc.platform_read]
  rcases hr with hr | hr <;> simp only [Soc.regionBus, hr]
  · exact ⟨_, rfl⟩
  · exact ⟨_, rfl⟩

/-- A write to the place of the trigger reaches the trigger, or is dropped with
    a warning where the semaphore has its read-only port. -/
theorem Region.trigger_write_run (value : Word) (w : World Soc) :
    (Soc.platform.bus region).write triggerAddress value w =
        .ok () (w.moved (w.hardware.discoveryWrite triggerAddress value)
          [.call (.access region (.write triggerAddress value))]) ∨
      (Soc.platform.bus region).write triggerAddress value w =
        .ok () (w.moved w.hardware [.call (.access region (.write triggerAddress value)),
          .log (.readOnlyWrite value triggerAddress)]) := by
  rw [Soc.platform_write]
  rcases hr with hr | hr <;> simp only [Soc.regionBus, hr]
  · left
    rw [setHardware_moved, World.moved_moved, List.append_nil]
    rfl
  · right
    have hset : ¬ triggerAddress = setPort := by decide
    have hclear : ¬ triggerAddress = clearPort := by decide
    rw [Soc.semaphoreWrite, if_neg hset, if_neg hclear, log_moved, World.moved_moved]
    rfl

end

end BpmpMailbox
