import BpmpMailbox.Proofs.Effects.Mapping
import BpmpMailbox.Proofs.FirmwareMemory
import BpmpMailbox.Proofs.WindowGuards

/-!
# Windows over one memory

A window is handed out for a range of physical addresses, and it keeps no more
of that than a place and a size. Whether the range lies inside the memory is
asked when the window is handed out, and whether an access lies inside the
window is asked at the access. Neither of the two asks for what the other has
asked, and each access needs both: the end of the window is at most the end of
the memory, so an access that its window admits never leaves the memory.

Nothing keeps windows from overlapping, and the firmware uses none. Their turns
may follow on one another in any order, some of them stopped by a guard. What
each turn writes is listed by physical address, and by induction over the turns
the memory is the one before with this list written to it. Who wrote is not in
the list. So everybody sees everybody's writes, and a window that no turn has
written to is as it was.

## Main definitions

* `Script.WindowStep.addr`, `Script.WindowStep.count`: What an access reaches.
* `Script.WindowStep.data`, `Script.WindowStep.answer`: What it puts there, and what it answers.
* `DramWindow`: A window that was handed out for some range.
* `Mapped`, `Accessed`: What a mapping or an access answers and does.
* `SharedWindows.Turn`: An access, a mapping, or a step of the chip or its firmware.
* `SharedWindows.Turn.leave`, `SharedWindows.Turn.history`: What some turns leave, and what they
  write.
* `SharedWindows.SharedMemory`: What is true of the memory after some turns.

## Theorems

* `mapped`: A window is handed out for what lies inside the memory.
* `accessed`: An access reaches the bytes at its physical address, or nothing.
* `SharedWindows.Turn.run_rewrites`, `SharedWindows.Turn.leave_rewrites`: A turn does its writes, and
  so do many.
* `SharedWindows.memory_shared`: Mappings and accesses, in any order.
-/

namespace BpmpMailbox

open Script (Reply WindowStep ChipStep runStep)

/-- Replacing no bytes changes nothing. -/
theorem Soc.stored_nil (s : Soc) (start : Nat) : s.stored start [] = s := by
  rw [stored, Memory.store_nil]

namespace Script.WindowStep

/-- Where in its window an access begins. -/
def addr : WindowStep → Nat
  | .read addr | .write addr _ | .readBytes addr _ | .writeBytes addr _ => addr

/-- How many bytes an access reaches; a word is four. -/
def count : WindowStep → Nat
  | .read _ | .write .. => 4
  | .readBytes _ count => count
  | .writeBytes _ data => data.length

/-- The bytes that an access puts in the place of those that it reaches; a
    reading access puts none. -/
def data : WindowStep → List Byte
  | .write _ value => Word.toBytes value
  | .writeBytes _ data => data
  | .read _ | .readBytes .. => []

/-- What an access answers when it reaches these bytes. -/
def answer (bytes : List Byte) : WindowStep → Reply
  | .read _ => .word (Word.ofBytes bytes)
  | .readBytes .. => .bytes bytes
  | .write .. | .writeBytes .. => .done

theorem length_data_le (step : WindowStep) : step.data.length ≤ step.count := by
  cases step <;> simp [data, count, Word.length_toBytes]

section

variable {region : Region} {place size : Nat} (hr : region.kind = .dram place size)
  (step : WindowStep) (w : World Soc)

include hr

/-- An access that ends inside its window reaches the bytes at its place. -/
theorem run_inside (hin : place + size ≤ dramSize) (h : step.addr + step.count ≤ size) :
    ∃ events, step.run (Soc.platform.bus region) w =
      .ok (step.answer (w.hardware.dram.load (place + step.addr) step.count))
        (w.moved (w.hardware.stored (place + step.addr) step.data) events) := by
  cases step with
  | read addr =>
      simp only [WindowStep.addr, WindowStep.count, WindowStep.data, Soc.stored_nil] at h ⊢
      have hread := Soc.platform_read region w addr
      simp only [Soc.regionBus, hr] at hread
      rw [bind_ok (Soc.regionLoad_run h hin _), pure_run] at hread
      exact ⟨_, bind_ok hread⟩
  | readBytes addr count =>
      simp only [WindowStep.addr, WindowStep.count, WindowStep.data, Soc.stored_nil] at h ⊢
      have hread := Soc.platform_readBytes region w addr count
      simp only [Soc.regionBus, hr] at hread
      rw [Soc.regionLoad_run h hin] at hread
      exact ⟨_, bind_ok hread⟩
  | write addr value =>
      simp only [WindowStep.addr, WindowStep.count, WindowStep.data] at h ⊢
      have hwrite := Soc.platform_write region w addr value
      simp only [Soc.regionBus, hr] at hwrite
      rw [Soc.regionStore_run h hin, World.moved_moved] at hwrite
      exact ⟨_, bind_ok hwrite⟩
  | writeBytes addr bytes =>
      simp only [WindowStep.addr, WindowStep.count, WindowStep.data] at h ⊢
      have hwrite := Soc.platform_writeBytes region w addr bytes
      simp only [Soc.regionBus, hr] at hwrite
      rw [Soc.regionStore_run h hin, World.moved_moved] at hwrite
      exact ⟨_, bind_ok hwrite⟩

/-- An access that leaves its window is stopped, and nothing has changed. -/
theorem run_outside (h : ¬ step.addr + step.count ≤ size) :
    ∃ events, step.run (Soc.platform.bus region) w =
      .error (.fault (bytesRejection step.addr step.count size)) (w.moved w.hardware events) := by
  cases step with
  | read addr =>
      simp only [WindowStep.addr, WindowStep.count] at h ⊢
      have hread := Soc.platform_read region w addr
      simp only [Soc.regionBus, hr] at hread
      rw [bind_error (Soc.regionLoad_outside h _)] at hread
      exact ⟨_, bind_error hread⟩
  | readBytes addr count =>
      simp only [WindowStep.addr, WindowStep.count] at h ⊢
      have hread := Soc.platform_readBytes region w addr count
      simp only [Soc.regionBus, hr] at hread
      rw [Soc.regionLoad_outside h] at hread
      exact ⟨_, bind_error hread⟩
  | write addr value =>
      simp only [WindowStep.addr, WindowStep.count] at h ⊢
      have hwrite := Soc.platform_write region w addr value
      simp only [Soc.regionBus, hr] at hwrite
      rw [Soc.regionStore_outside h] at hwrite
      exact ⟨_, bind_error hwrite⟩
  | writeBytes addr bytes =>
      simp only [WindowStep.addr, WindowStep.count] at h ⊢
      have hwrite := Soc.platform_writeBytes region w addr bytes
      simp only [Soc.regionBus, hr] at hwrite
      rw [Soc.regionStore_outside h] at hwrite
      exact ⟨_, bind_error hwrite⟩

end

end Script.WindowStep

/-- A window that was handed out for some bytes of physical memory. -/
structure DramWindow where
  phys : Nat
  size : Nat
  region : Region
  handedOut : ∃ w w', Soc.platform.mapMemory phys size w = .ok (some region) w'

namespace DramWindow

variable (window : DramWindow)

/-- Every window lies inside the memory. -/
theorem inside : dramBase ≤ window.phys ∧ window.phys + window.size ≤ dramBase + dramSize ∧
    window.region.kind = .dram (window.phys - dramBase) window.size := by
  rcases window.handedOut with ⟨w, w', hmap⟩
  rcases Soc.mapMemory_ok hmap with ⟨hkind, hin⟩
  have hbase := Soc.dramBase_le_of_mapMemory hmap
  exact ⟨hbase, by omega, hkind⟩

/-- An access through the window. -/
def access (step : WindowStep) : Action Soc Reply := step.run (Soc.platform.bus window.region)

/-- Whether a physical address is one of the window's. -/
def Covers (phys : Nat) : Prop := window.phys ≤ phys ∧ phys < window.phys + window.size

end DramWindow

/-- A mapping hands out a window, and leaves what lies in the memory. -/
theorem mapMemory_rewrites {s : Soc} {writes : List MemoryWrite} (phys size : Nat) :
    Maintains (fun w => s.Rewritten w.hardware writes) (Soc.platform.mapMemory phys size) := by
  have hhandOut : ∀ kind, Maintains (fun w => s.Rewritten w.hardware writes) (Soc.handOut kind) :=
    fun _ => .bind .hardware fun _ => .bind (setHardware_rewrites fun _ => rfl) fun _ => .pure
  exact .bind (Ends.note fun _ hw => hw) fun _ => .bind .hardware fun _ =>
    .bind (setHardware_rewrites fun _ => rfl) fun _ => .ite .pure <| .ite .pure <|
      .bind .ofExcept fun _ => .ite (hhandOut _) .pure

/-- What one access through a window has answered and done. -/
structure Accessed (s : Soc) (window : DramWindow) (step : WindowStep) : Prop where
  /-- Inside the window it answers from the bytes that lie there and replaces
      them, and nothing else of the chip changes. -/
  inside : step.addr + step.count ≤ window.size →
    ∃ bytes, bytes.length = step.count ∧ s.Holds (window.phys + step.addr) bytes ∧
      (runStep s (window.access step)).result = .ok (step.answer bytes) ∧
      s.Rewritten (runStep s (window.access step)).after
        [⟨window.phys + step.addr, step.data⟩] ∧
      (runStep s (window.access step)).after =
        { s with dram := (runStep s (window.access step)).after.dram }
  /-- Outside it nothing changes. -/
  outside : window.size < step.addr + step.count → (runStep s (window.access step)).after = s
  /-- And the access stops at the guard of the window. -/
  stopped : window.size < step.addr + step.count → step.addr + step.count < addressLimit →
    (runStep s (window.access step)).result =
      .error (.fault (.bytesOutsideWindow step.addr step.count window.size))

theorem accessed (s : Soc) (window : DramWindow) (step : WindowStep) :
    Accessed s window step := by
  rcases window.inside with ⟨hbase, hin, hkind⟩
  rcases Nat.exists_eq_add_of_le hbase with ⟨place, hplace⟩
  rw [hplace, Nat.add_sub_cancel_left] at hkind
  rw [hplace, Nat.add_assoc, Nat.add_le_add_iff_left] at hin
  refine ⟨fun h => ?_, fun h => ?_, fun h hlimit => ?_⟩
  · have hdata := step.length_data_le
    rcases step.run_inside hkind ⟨s, []⟩ hin h with ⟨events, hrun⟩
    rw [DramWindow.access, runStep_ok hrun, hplace, Nat.add_assoc]
    refine ⟨s.dram.load (place + step.addr) step.count, ?_, s.holds_load _ _, rfl,
      s.rewritten_stored (by omega), rfl⟩
    exact Memory.length_load _ _ _ (by omega)
  · rcases step.run_outside hkind ⟨s, []⟩ (Nat.not_le.mpr h) with ⟨events, hrun⟩
    rw [DramWindow.access, runStep_error hrun]
    rfl
  · rcases step.run_outside hkind ⟨s, []⟩ (Nat.not_le.mpr h) with ⟨events, hrun⟩
    rw [DramWindow.access, runStep_error hrun, bytesRejection, if_neg (Nat.not_le.mpr hlimit)]

/-- What a request for a window has answered and counted. -/
structure Mapped (s : Soc) (phys size : Nat) : Prop where
  /-- It is counted, whatever comes of it. -/
  counted : (runStep s (Soc.platform.mapMemory phys size)).after.memoryMappings =
    s.memoryMappings + 1
  /-- A window is handed out if it lies inside the memory and the mapping is not
      the one that is made to fail. -/
  answered : phys + size < addressLimit →
    ∃ region?, (runStep s (Soc.platform.mapMemory phys size)).result = .ok region? ∧
      (region?.isSome ↔ s.faults.failingMapping ≠ some s.memoryMappings ∧
        dramBase ≤ phys ∧ phys + size ≤ dramBase + dramSize)

theorem Mapped.of_run {s t : Soc} {phys size : Nat} {region? : Option Region}
    {events : List Event}
    (hrun : Soc.platform.mapMemory phys size ⟨s, []⟩ =
      .ok region? ((⟨s, []⟩ : World Soc).moved t events))
    (hcount : t.memoryMappings = s.memoryMappings + 1)
    (hsome : region?.isSome ↔ s.faults.failingMapping ≠ some s.memoryMappings ∧
      dramBase ≤ phys ∧ phys + size ≤ dramBase + dramSize) : Mapped s phys size := by
  refine ⟨?_, fun _ => ⟨region?, ?_, hsome⟩⟩
  · rw [runStep_ok hrun]
    exact hcount
  · rw [runStep_ok hrun]

theorem mapped (s : Soc) (phys size : Nat) : Mapped s phys size := by
  have hrun := Soc.platform_mapMemory phys size ⟨s, []⟩
  dsimp only at hrun
  by_cases hfailing : s.faults.failingMapping = some s.memoryMappings
  · rw [if_pos hfailing] at hrun
    exact .of_run hrun rfl (iff_of_false Bool.false_ne_true fun h => h.1 hfailing)
  rw [if_neg hfailing] at hrun
  by_cases hbelow : phys < dramBase
  · rw [if_pos hbelow] at hrun
    exact .of_run hrun rfl (iff_of_false Bool.false_ne_true fun h => Nat.not_le.mpr hbelow h.2.1)
  rw [if_neg hbelow] at hrun
  by_cases hlimit : addressLimit ≤ phys + size
  · -- The end does not fit an address. The mapping has been counted by then.
    rw [if_pos hlimit] at hrun
    refine ⟨?_, fun h => absurd hlimit (Nat.not_le.mpr h)⟩
    rw [runStep_error hrun]
    rfl
  rw [if_neg hlimit] at hrun
  by_cases hin : phys + size ≤ dramBase + dramSize
  · rw [if_pos hin] at hrun
    exact .of_run hrun rfl (iff_of_true rfl ⟨hfailing, Nat.not_lt.mp hbelow, hin⟩)
  · rw [if_neg hin] at hrun
    exact .of_run hrun rfl (iff_of_false Bool.false_ne_true fun h => hin h.2.2)

namespace SharedWindows

/-- A turn of one of those who share the memory: an access through a window, a
    mapping of one more window, or a step of the chip or its firmware. -/
inductive Turn where
  | access (window : DramWindow) (step : WindowStep)
  | map (phys size : Nat)
  | chip (step : ChipStep)

namespace Turn

/-- Carry out a turn. Handlers that a doorbell calls find no mailbox, and so
    reach the memory in no other way than by the turns. -/
def run : Turn → Action Soc Reply
  | .access window step => window.access step
  | .map phys size => do
    let region? ← Soc.platform.mapMemory phys size
    pure (.flag region?.isSome)
  | .chip step => step.run fun _ => none

/-- What a turn writes. -/
def writes (s : Soc) : Turn → List MemoryWrite
  | .access window step =>
    if step.addr + step.count ≤ window.size then [⟨window.phys + step.addr, step.data⟩] else []
  | .map .. => []
  | .chip step => step.writes s

/-- The chip after some turns, whether they came to their end or stopped. -/
def leave (s : Soc) : List Turn → Soc
  | [] => s
  | turn :: turns => leave (runStep s turn.run).after turns

/-- What some turns write, one after the other. -/
def history (s : Soc) : List Turn → List MemoryWrite
  | [] => []
  | turn :: turns => turn.writes s ++ history (runStep s turn.run).after turns

/-- Every turn does its writes to the memory and no others. -/
theorem run_rewrites (s : Soc) (turn : Turn) :
    s.Rewritten (runStep s turn.run).after (turn.writes s) := by
  cases turn with
  | access window step =>
      by_cases h : step.addr + step.count ≤ window.size
      · rcases (accessed s window step).inside h with ⟨-, -, -, -, hwritten, -⟩
        rw [writes, if_pos h]
        exact hwritten
      · have hafter := (accessed s window step).outside (Nat.not_le.mp h)
        rw [writes, if_neg h, run, hafter]
        exact .of_dram_eq rfl
  | map phys size =>
      rw [Script.runStep_after]
      exact Ends.after (Maintains.bind (mapMemory_rewrites phys size) fun _ => .pure)
        (.of_dram_eq rfl)
  | chip step =>
      rw [Script.runStep_after]
      exact Ends.after (step.run_rewrites s) rfl

/-- What turns have done to the memory is what they have written, in order. -/
theorem leave_rewrites (s : Soc) (turns : List Turn) :
    s.Rewritten (leave s turns) (history s turns) := by
  induction turns generalizing s with
  | nil => exact .of_dram_eq rfl
  | cons turn turns ih => exact (run_rewrites s turn).trans (ih _)

/-- A turn that does not write where a window lies. -/
def Spares (window : DramWindow) : Turn → Prop
  | .access other _ => ∀ phys, window.Covers phys → ¬ other.Covers phys
  | .map .. => True
  | .chip step => ∀ s, ∀ write ∈ step.writes s, ∀ phys, window.Covers phys →
      write.byteAt phys = none

theorem Spares.writes {window : DramWindow} {turn : Turn} (h : turn.Spares window) {s : Soc}
    {write : MemoryWrite} (hmem : write ∈ turn.writes s) {phys : Nat}
    (hphys : window.Covers phys) : write.byteAt phys = none := by
  cases turn with
  | access other step =>
      rw [Turn.writes] at hmem
      split at hmem
      · rename_i hfits
        rw [List.mem_singleton.mp hmem]
        -- Where the access reaches, the other window does, and so this one does not.
        have hout := h phys hphys
        have hdata := step.length_data_le
        rw [DramWindow.Covers] at hout
        refine MemoryWrite.byteAt_eq_none ?_
        dsimp only
        omega
      · cases hmem
  | map phys size => cases hmem
  | chip step => exact h s write hmem phys hphys

theorem lastWritten_history {window : DramWindow} {phys : Nat} (hphys : window.Covers phys)
    (s : Soc) {turns : List Turn} (h : ∀ turn ∈ turns, turn.Spares window) :
    lastWritten phys (history s turns) = none := by
  induction turns generalizing s with
  | nil => rfl
  | cons turn turns ih =>
      rcases List.forall_mem_cons.mp h with ⟨hturn, hturns⟩
      rw [history, lastWritten_append, ih _ hturns, Option.none_or]
      exact lastWritten_eq_none fun write hmem => hturn.writes hmem hphys

end Turn

open Turn (leave history)

/-- What is true of the memory after some turns, whoever had them. -/
structure SharedMemory (s : Soc) (past : List Turn) : Prop where
  /-- Every byte is the one last written to its physical address. -/
  bytes : s.Rewritten (leave s past) (history s past)
  /-- Every access answers from these bytes, if it stays inside its window. -/
  access : ∀ window step, Accessed (leave s past) window step
  /-- So does the firmware, where it was told to look for a message. -/
  message : ∀ channel phys, (leave s past).area? channel = some phys →
    phys + messageSize ≤ dramBase + dramSize →
      ∃ bytes, bytes.length = messageSize ∧ (leave s past).Holds phys bytes ∧
        (runStep (leave s past) (Firmware.message channel)).result = .ok (.ofBytes bytes)
  /-- What lies in a window is as it was if all turns have spared it. -/
  spared : ∀ window, (∀ turn ∈ past, turn.Spares window) → ∀ phys, window.Covers phys →
    (leave s past).byteAt phys = s.byteAt phys

/-- Windows are handed out for what lies inside the memory. Whatever windows
    there are, and however the accesses through them and the turns of the
    firmware follow on one another, the memory is one. -/
theorem memory_shared :
    (∀ s phys size, Mapped s phys size) ∧ ∀ s past, SharedMemory s past := by
  refine ⟨mapped, fun s past => ⟨Turn.leave_rewrites s past, accessed _, ?_, ?_⟩⟩
  · intro channel phys harea hin
    rcases Soc.message?_of_area? harea hin with ⟨bytes, hlength, hholds, hmessage⟩
    have hread := message_reads channel ⟨leave s past, []⟩
    rw [hmessage] at hread
    exact ⟨bytes, hlength, hholds, by rw [runStep_ok hread]⟩
  · intro window hspares phys hphys
    rw [Turn.leave_rewrites s past phys, Turn.lastWritten_history hphys s hspares, Option.none_or]

/-- Two windows that overlap: what is written at the end of one is read at the
    beginning of the other, two bytes of each word. -/
example :
    let front : DramWindow := ⟨dramBase, 8, ⟨.dram 0 8, 0⟩, ⟨Soc.initial, []⟩, _, rfl⟩
    let back : DramWindow := ⟨dramBase + 6, 8, ⟨.dram 6 8, 0⟩, ⟨Soc.initial, []⟩, _, rfl⟩
    (runStep (leave Soc.initial [.access front (.write 4 0x04030201#32)])
      (back.access (.read 0))).result = .ok (.word 0x00000403#32) := by
  rfl

end SharedWindows

end BpmpMailbox
