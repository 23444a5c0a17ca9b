import BpmpMailbox.Proofs.Bytes
import BpmpMailbox.Proofs.Sequencing
import BpmpMailbox.Message.Area
import BpmpMailbox.Soc.Platform

/-!
# Accesses to the regions of the chip

What one access through the chip's platform does. Each access leaves its own
entry in the journal first and then reads or changes one part of the chip: the
semaphore word, or bytes of memory.

A window that lies inside the memory and is large enough for a message is all
that a channel area needs. `MessageAt` says this of a region, together with
the place in memory where the message begins. How much larger the window is
does not matter, because no operation on an area reaches past the message;
windows may therefore overlap without their messages doing so.

## Main definitions

* `Soc.stored`: The chip with bytes of its memory replaced.
* `Region.MessageAt`: The region is a window whose message begins at a place.

## Theorems

* `Soc.platform_read`, `Soc.platform_write`, `Soc.platform_readBytes`, `Soc.platform_writeBytes`: An
  access is noted, and then carried out.
* `Region.load_run`, `Region.store_run`: Byte copies inside a message.
* `Region.status_read_run`, `Region.set_write_run`, `Region.clear_write_run`: The semaphore
  registers.
* `ChannelArea.code_run`, `ChannelArea.setCode_run`, `ChannelArea.flags_run`,
  `ChannelArea.setFlags_run`: The header of a message.
* `ChannelArea.writePayload_run`, `ChannelArea.writePayload_refused`,
  `ChannelArea.readPayload_run`: Its payload.
-/

namespace BpmpMailbox

namespace Soc

/-- The chip with the bytes of its memory from `start` on replaced. -/
def stored (s : Soc) (start : Nat) (data : List Byte) : Soc :=
  { s with dram := s.dram.store start data }

theorem dramPlace_ok {place size addr count : Nat} (h : addr + count ≤ size)
    (hin : place + size ≤ dramSize) :
    dramPlace (.dram place size) addr count = .ok (place + addr) := by
  -- The memory is much smaller than the range of an address, so the end does not overflow.
  have hadd : addSize addr count = .ok (addr + count) :=
    addSize_of_lt (by simp only [addressLimit, dramSize] at hin ⊢; omega)
  simp only [dramPlace, hadd, bind, Except.bind, if_pos h]

theorem regionLoad_run {place size addr count : Nat} (h : addr + count ≤ size)
    (hin : place + size ≤ dramSize) (w : World Soc) :
    regionLoad (.dram place size) addr count w =
      .ok (w.hardware.dram.load (place + addr) count) w := by
  unfold regionLoad
  rw [bind_ok (ofExcept_ok (dramPlace_ok h hin) w)]
  unfold dramLoad
  rw [bind_ok (hardware_run w), if_pos (by omega), pure_run]

theorem regionStore_run {place size addr : Nat} {data : List Byte}
    (h : addr + data.length ≤ size) (hin : place + size ≤ dramSize) (w : World Soc) :
    regionStore (.dram place size) addr data w =
      .ok () (w.moved (w.hardware.stored (place + addr) data) []) := by
  unfold regionStore
  rw [bind_ok (ofExcept_ok (dramPlace_ok h hin) w)]
  unfold dramStore
  rw [if_pos (by omega), setHardware_moved]
  rfl

section Noted

variable (region : Region) (w : World Soc)

theorem platform_read (addr : Nat) :
    (platform.bus region).read addr w =
      (regionBus region).read addr (w.moved w.hardware [.call (.access region (.read addr))]) :=
  bind_ok (note_moved _ w)

theorem platform_write (addr : Nat) (v : Word) :
    (platform.bus region).write addr v w =
      (regionBus region).write addr v
        (w.moved w.hardware [.call (.access region (.write addr v))]) :=
  bind_ok (note_moved _ w)

theorem platform_readBytes (addr count : Nat) :
    (platform.bus region).readBytes addr count w =
      (regionBus region).readBytes addr count
        (w.moved w.hardware [.call (.access region (.readBytes addr count))]) :=
  bind_ok (note_moved _ w)

theorem platform_writeBytes (addr : Nat) (data : List Byte) :
    (platform.bus region).writeBytes addr data w =
      (regionBus region).writeBytes addr data
        (w.moved w.hardware [.call (.access region (.writeBytes addr data.length))]) :=
  bind_ok (note_moved _ w)

end Noted

end Soc

section SemaphoreRegisters

variable {region : Region} (hr : region.kind = .semaphore)

include hr

theorem Region.status_read_run (w : World Soc) :
    (Soc.platform.bus region).read statusPort w =
      .ok w.hardware.word
        (w.moved w.hardware [.call (.access region (.read statusPort))]) := by
  rw [Soc.platform_read]
  simp only [Soc.regionBus, hr]
  rw [bind_ok (hardware_run _), pure_run]
  simp only [World.moved_hardware, Soc.semaphoreRead, if_pos]

theorem Region.set_write_run (bits : Word) (w : World Soc) :
    (Soc.platform.bus region).write setPort bits w =
      .ok () (w.moved (w.hardware.setBits bits)
        [.call (.access region (.write setPort bits))]) := by
  rw [Soc.platform_write]
  simp only [Soc.regionBus, hr, Soc.semaphoreWrite, if_pos]
  rw [setHardware_moved, World.moved_moved, List.append_nil]
  rfl

theorem Region.clear_write_run (bits : Word) (w : World Soc) :
    (Soc.platform.bus region).write clearPort bits w =
      .ok () (w.moved (w.hardware.clearBits bits)
        [.call (.access region (.write clearPort bits))]) := by
  -- The set port comes first in the chip's decoding, and this is the other one.
  have hport : ¬ clearPort = setPort := by decide
  rw [Soc.platform_write]
  simp only [Soc.regionBus, hr, Soc.semaphoreWrite, if_pos, if_neg hport]
  rw [setHardware_moved, World.moved_moved, List.append_nil]
  rfl

end SemaphoreRegisters

/-- The region is a window of memory that lies inside the memory, and begins
    with a whole message at the given place. -/
def Region.MessageAt (region : Region) (place : Nat) : Prop :=
  ∃ size, region.kind = .dram place size ∧ messageSize ≤ size ∧ place + size ≤ dramSize

section MessageWindow

variable {region : Region} {place : Nat} (hr : region.MessageAt place)

include hr

theorem Region.MessageAt.inside : place + messageSize ≤ dramSize := by
  rcases hr with ⟨size, -, hle, hin⟩
  omega

theorem Region.load_run {addr count : Nat} (h : addr + count ≤ messageSize) (w : World Soc) :
    (Soc.platform.bus region).readBytes addr count w =
      .ok (w.hardware.dram.load (place + addr) count)
        (w.moved w.hardware [.call (.access region (.readBytes addr count))]) := by
  rcases hr with ⟨size, hkind, hle, hin⟩
  rw [Soc.platform_readBytes]
  simp only [Soc.regionBus, hkind]
  -- The message is the beginning of the window, so what lies in the message lies in the window.
  rw [Soc.regionLoad_run (by omega) hin, World.moved_hardware]

theorem Region.store_run {addr : Nat} {data : List Byte} (h : addr + data.length ≤ messageSize)
    (w : World Soc) :
    (Soc.platform.bus region).writeBytes addr data w =
      .ok () (w.moved (w.hardware.stored (place + addr) data)
        [.call (.access region (.writeBytes addr data.length))]) := by
  rcases hr with ⟨size, hkind, hle, hin⟩
  rw [Soc.platform_writeBytes]
  simp only [Soc.regionBus, hkind]
  rw [Soc.regionStore_run (by omega) hin, World.moved_moved, World.moved_hardware,
    List.append_nil]

theorem Region.loadWord_run {addr : Nat} (h : addr + 4 ≤ messageSize) (w : World Soc) :
    (Soc.platform.bus region).read addr w =
      .ok (w.hardware.dram.loadWord (place + addr))
        (w.moved w.hardware [.call (.access region (.read addr))]) := by
  rcases hr with ⟨size, hkind, hle, hin⟩
  rw [Soc.platform_read]
  simp only [Soc.regionBus, hkind]
  rw [bind_ok (Soc.regionLoad_run (by omega) hin _), pure_run, World.moved_hardware,
    Memory.loadWord]

theorem Region.storeWord_run {addr : Nat} (h : addr + 4 ≤ messageSize) (v : Word) (w : World Soc) :
    (Soc.platform.bus region).write addr v w =
      .ok () (w.moved (w.hardware.stored (place + addr) (Word.toBytes v))
        [.call (.access region (.write addr v))]) := by
  rcases hr with ⟨size, hkind, hle, hin⟩
  rw [Soc.platform_write]
  simp only [Soc.regionBus, hkind]
  -- A word written is its four bytes stored.
  rw [Soc.regionStore_run (by rw [Word.length_toBytes]; omega) hin, World.moved_moved,
    World.moved_hardware, List.append_nil]

theorem ChannelArea.code_run (w : World Soc) :
    (⟨Soc.platform.bus region⟩ : ChannelArea Soc).code w =
      .ok (w.hardware.dram.loadWord (place + codeOffset))
        (w.moved w.hardware [.call (.access region (.read codeOffset))]) :=
  Region.loadWord_run hr (by decide) w

theorem ChannelArea.setCode_run (code : Code) (w : World Soc) :
    (⟨Soc.platform.bus region⟩ : ChannelArea Soc).setCode code w =
      .ok () (w.moved (w.hardware.stored (place + codeOffset) (Word.toBytes code))
        [.call (.access region (.write codeOffset code))]) :=
  Region.storeWord_run hr (by decide) code w

theorem ChannelArea.flags_run (w : World Soc) :
    (⟨Soc.platform.bus region⟩ : ChannelArea Soc).flags w =
      .ok ⟨w.hardware.dram.loadWord (place + flagsOffset)⟩
        (w.moved w.hardware [.call (.access region (.read flagsOffset))]) := by
  unfold ChannelArea.flags
  rw [bind_ok (Region.loadWord_run hr (by decide) w), pure_run]

theorem ChannelArea.setFlags_run (flags : MessageFlags) (w : World Soc) :
    (⟨Soc.platform.bus region⟩ : ChannelArea Soc).setFlags flags w =
      .ok () (w.moved (w.hardware.stored (place + flagsOffset) (Word.toBytes flags.bits))
        [.call (.access region (.write flagsOffset flags.bits))]) :=
  Region.storeWord_run hr (by decide) flags.bits w

theorem ChannelArea.writePayload_run {data : List Byte} (h : data.length ≤ payloadSize)
    (w : World Soc) :
    (⟨Soc.platform.bus region⟩ : ChannelArea Soc).writePayload data w =
      .ok () (w.moved (w.hardware.stored (place + payloadOffset) data)
        [.call (.access region (.writeBytes payloadOffset data.length))]) := by
  unfold ChannelArea.writePayload
  rw [if_pos h]
  exact Region.store_run hr (by simp only [payloadOffset, payloadSize, messageSize] at h ⊢; omega) w

theorem ChannelArea.readPayload_run (buffer : List Byte) (w : World Soc) :
    (⟨Soc.platform.bus region⟩ : ChannelArea Soc).readPayload buffer w =
      .ok (min buffer.length payloadSize,
          w.hardware.dram.load (place + payloadOffset) (min buffer.length payloadSize) ++
            buffer.drop (min buffer.length payloadSize))
        (w.moved w.hardware
          [.call (.access region (.readBytes payloadOffset (min buffer.length payloadSize)))]) := by
  unfold ChannelArea.readPayload
  have hinside : payloadOffset + min buffer.length payloadSize ≤ messageSize := by
    simp only [payloadOffset, payloadSize, messageSize]
    omega
  rw [bind_ok (Region.load_run hr hinside w), pure_run]

end MessageWindow

/-- A payload that one message cannot carry is refused before any access. -/
theorem ChannelArea.writePayload_refused {region : Region} {data : List Byte}
    (h : payloadSize < data.length) (w : World Soc) :
    (⟨Soc.platform.bus region⟩ : ChannelArea Soc).writePayload data w =
      .error (.refused (.payloadTooLarge data.length payloadSize)) w := by
  unfold ChannelArea.writePayload
  rw [if_neg (Nat.not_le.mpr h), refuse_run]

end BpmpMailbox
