import BpmpMailbox.Hardware.WordWindow
import BpmpMailbox.Proofs.Effects.Connect
import BpmpMailbox.Script.Step

/-!
# The guards of windows

Between an address that a caller has made up and the bytes behind a window
stands one comparison: the end of the access with the end of the window. Both
kinds of window make it, and this module says exactly what passes. An access
is carried out when it ends inside the window, as a sum of natural numbers,
and any other is stopped with the hardware as it was. No address and no number
of bytes is left out.

What is not the same for all of them is the fault. The end of an access is
computed before it is compared, in the width of an address, and near the top
of the range the sum does not fit. Such an access stops for its sum, and never
comes to the comparison that was meant to stop it. For words this is one
address alone, the last multiple of four, and its sum would come out as zero
where sums wrap around: a machine that does not stop for the sum has there a
guard that lets the access pass.

## Main definitions

* `Guarded`: An action is carried out when it is allowed, and stopped otherwise.
* `WordWindow.rejection`, `bytesRejection`: The faults that stop an access.

## Theorems

* `WordWindow.check_inside`, `WordWindow.check_outside`: What the guard of a register window says.
* `WordWindow.read_run`, `WordWindow.write_run`, `WordWindow.read_outside`,
  `WordWindow.write_outside`: The accesses behind it.
* `Soc.dramPlace_outside`: What the guard of a window of memory says.
* `guards_exact`: Both guards, for every address.
-/

namespace BpmpMailbox

open Script (runStep)

/-- The action is carried out when it is allowed, with this answer and this
    hardware after it. When it is not it stops with the fault given, and the
    hardware is as it was. -/
structure Guarded {σ α : Type} (s : σ) (act : Action σ α) (allowed : Prop) (rejection : Fault)
    (answer : α) (left : σ) : Prop where
  carriedOut : allowed → (runStep s act).result = .ok answer ∧ (runStep s act).after = left
  stopped : ¬allowed →
    (runStep s act).result = .error (.fault rejection) ∧ (runStep s act).after = s

/-- The two ends of an action, and nothing said of what it notes. -/
theorem Guarded.of_cases {σ α : Type} {s : σ} {act : Action σ α} {allowed : Prop}
    {rejection : Fault} {answer : α} {left : σ}
    (hin : allowed → ∃ events, act ⟨s, []⟩ = .ok answer (World.moved ⟨s, []⟩ left events))
    (hout : ¬allowed → ∃ events,
      act ⟨s, []⟩ = .error (.fault rejection) (World.moved ⟨s, []⟩ s events)) :
    Guarded s act allowed rejection answer left := by
  constructor
  · intro h
    rcases hin h with ⟨events, hrun⟩
    rw [runStep_ok hrun, World.moved_hardware]
    exact ⟨rfl, rfl⟩
  · intro h
    rcases hout h with ⟨events, hrun⟩
    rw [runStep_error hrun, World.moved_hardware]
    exact ⟨rfl, rfl⟩

namespace WordWindow

/-- The fault that stops a word access: its sum does not fit, or it leaves the window. -/
def rejection (addr : Nat) : Fault :=
  if addr % 4 = 0 ∧ addressLimit ≤ addr + 4 then .overflow .add else .wordOutsideWindow addr

/-- There is one word whose end is no address, the last of the range. -/
theorem rejection_eq_overflow_iff {addr : Nat} (h : addr < addressLimit) :
    rejection addr = .overflow .add ↔ addr = addressLimit - 4 := by
  simp only [addressLimit] at h
  unfold rejection
  split
  · next hsum =>
      simp only [addressLimit] at hsum ⊢
      exact iff_of_true trivial (by omega)
  · next hsum =>
      simp only [addressLimit] at hsum ⊢
      exact iff_of_false (by simp only [reduceCtorEq, not_false_eq_true]) (by omega)

section

variable {size addr : Nat}

theorem check_inside (hsize : size < addressLimit) (h : addr % 4 = 0 ∧ addr + 4 ≤ size) :
    check size addr = .ok () := by
  have hsum : addSize addr 4 = .ok (addr + 4) := addSize_of_lt (by omega)
  simp only [check, if_pos h.1, hsum, if_pos h.2]

theorem check_outside (h : ¬(addr % 4 = 0 ∧ addr + 4 ≤ size)) :
    check size addr = .error (rejection addr) := by
  unfold check rejection
  by_cases haligned : addr % 4 = 0
  · by_cases hfits : addressLimit ≤ addr + 4
    · -- The sum does not fit, so there is nothing to compare.
      rw [if_pos haligned, addSize_of_le hfits, if_pos ⟨haligned, hfits⟩]
    · rw [if_pos haligned, addSize_of_lt (Nat.not_le.mp hfits), if_neg fun hc => hfits hc.2]
      exact if_neg fun hin => h ⟨haligned, hin⟩
  · rw [if_neg haligned, if_neg fun hc => haligned hc.1]

theorem read_run (hsize : size < addressLimit) (h : addr % 4 = 0 ∧ addr + 4 ≤ size)
    (w : World (Memory size)) :
    (bus size).read addr w = .ok (w.hardware.loadWord addr) w := by
  simp only [bus, Bus.ofWords]
  rw [bind_ok (ofExcept_ok (check_inside hsize h) w), bind_ok (hardware_run w), pure_run]

theorem write_run (hsize : size < addressLimit) (h : addr % 4 = 0 ∧ addr + 4 ≤ size)
    (value : Word) (w : World (Memory size)) :
    (bus size).write addr value w = .ok () (w.moved (w.hardware.storeWord addr value) []) := by
  simp only [bus, Bus.ofWords]
  rw [bind_ok (ofExcept_ok (check_inside hsize h) w), setHardware_moved]

theorem read_outside (h : ¬(addr % 4 = 0 ∧ addr + 4 ≤ size)) (w : World (Memory size)) :
    (bus size).read addr w = .error (.fault (rejection addr)) w := by
  simp only [bus, Bus.ofWords]
  rw [bind_error (ofExcept_error (check_outside h) w)]

theorem write_outside (h : ¬(addr % 4 = 0 ∧ addr + 4 ≤ size)) (value : Word)
    (w : World (Memory size)) :
    (bus size).write addr value w = .error (.fault (rejection addr)) w := by
  simp only [bus, Bus.ofWords]
  rw [bind_error (ofExcept_error (check_outside h) w)]

end

end WordWindow

/-- The fault that stops a byte access: its sum does not fit, or it leaves the window. -/
def bytesRejection (addr count size : Nat) : Fault :=
  if addressLimit ≤ addr + count then .overflow .add else .bytesOutsideWindow addr count size

namespace Soc

variable {place size addr count : Nat}

theorem dramPlace_outside (h : ¬addr + count ≤ size) :
    dramPlace (.dram place size) addr count = .error (bytesRejection addr count size) := by
  unfold dramPlace bytesRejection
  by_cases hfits : addressLimit ≤ addr + count
  · simp only [addSize_of_le hfits, bind, Except.bind, if_pos hfits]
  · simp only [addSize_of_lt (Nat.not_le.mp hfits), bind, Except.bind, if_neg hfits, if_neg h]

theorem regionLoad_outside (h : ¬addr + count ≤ size) (w : World Soc) :
    regionLoad (.dram place size) addr count w =
      .error (.fault (bytesRejection addr count size)) w := by
  unfold regionLoad
  rw [bind_error (ofExcept_error (dramPlace_outside h) w)]

theorem regionStore_outside {data : List Byte} (h : ¬addr + data.length ≤ size) (w : World Soc) :
    regionStore (.dram place size) addr data w =
      .error (.fault (bytesRejection addr data.length size)) w := by
  unfold regionStore
  rw [bind_error (ofExcept_error (dramPlace_outside h) w)]

end Soc

/-- Both guards are exact. A word access to a register window is carried out
    when it is aligned and ends inside the window, and a byte access to a window
    of memory when it ends inside the window; every other access is stopped,
    and nothing has changed. It is stopped for leaving the window, unless its
    end is no address, and for a word there is one such address. -/
theorem guards_exact (addr : Nat) :
    (∀ size < addressLimit, ∀ m : Memory size,
      Guarded m ((WordWindow.bus size).read addr) (addr % 4 = 0 ∧ addr + 4 ≤ size)
        (WordWindow.rejection addr) (m.loadWord addr) m ∧
      ∀ value, Guarded m ((WordWindow.bus size).write addr value)
        (addr % 4 = 0 ∧ addr + 4 ≤ size) (WordWindow.rejection addr) () (m.storeWord addr value)) ∧
    (∀ phys size region w w',
      Soc.platform.mapMemory phys size w = .ok (some region) w' → ∀ s : Soc,
        (∀ count, Guarded s ((Soc.platform.bus region).readBytes addr count) (addr + count ≤ size)
          (bytesRejection addr count size) (s.dram.load (phys - dramBase + addr) count) s) ∧
        ∀ data, Guarded s ((Soc.platform.bus region).writeBytes addr data)
          (addr + data.length ≤ size) (bytesRejection addr data.length size) ()
          (s.stored (phys - dramBase + addr) data)) ∧
    (addr < addressLimit →
      (WordWindow.rejection addr = .overflow .add ↔ addr = addressLimit - 4)) := by
  refine ⟨fun size hsize m => ⟨?_, fun value => ?_⟩, fun phys size region w w' hmap s =>
    ⟨fun count => ?_, fun data => ?_⟩, WordWindow.rejection_eq_overflow_iff⟩
  · exact Guarded.of_cases (fun h => ⟨[], WordWindow.read_run hsize h ⟨m, []⟩⟩)
      fun h => ⟨[], WordWindow.read_outside h ⟨m, []⟩⟩
  · exact Guarded.of_cases (fun h => ⟨[], WordWindow.write_run hsize h value ⟨m, []⟩⟩)
      fun h => ⟨[], WordWindow.write_outside h value ⟨m, []⟩⟩
  -- The window was handed out, so it lies inside the memory.
  · rcases Soc.mapMemory_ok hmap with ⟨hkind, hin⟩
    have hrun := Soc.platform_readBytes region ⟨s, []⟩ addr count
    simp only [Soc.regionBus, hkind] at hrun
    exact Guarded.of_cases (fun h => ⟨_, hrun.trans (Soc.regionLoad_run h hin _)⟩)
      fun h => ⟨_, hrun.trans (Soc.regionLoad_outside h _)⟩
  · rcases Soc.mapMemory_ok hmap with ⟨hkind, hin⟩
    have hrun := Soc.platform_writeBytes region ⟨s, []⟩ addr data
    simp only [Soc.regionBus, hkind] at hrun
    exact Guarded.of_cases (fun h => ⟨_, hrun.trans (Soc.regionStore_run h hin _)⟩)
      fun h => ⟨_, hrun.trans (Soc.regionStore_outside h _)⟩

/-- At the top of the range both guards stop for their sums. -/
theorem guards_exact_top :
    (runStep (Memory.zero 8) ((WordWindow.bus 8).read (addressLimit - 4))).result =
        .error (.fault (.overflow .add)) ∧
      ∃ region w', Soc.platform.mapMemory dramBase messageSize ⟨Soc.booted, []⟩ =
          .ok (some region) w' ∧
        (runStep Soc.booted
          ((Soc.platform.bus region).readBytes (addressLimit - 4) 4)).result =
            .error (.fault (.overflow .add)) := by
  rcases guards_exact (addressLimit - 4) with ⟨hwords, hbytes, hlast⟩
  have hsum : WordWindow.rejection (addressLimit - 4) = .overflow .add :=
    (hlast (by decide)).mpr rfl
  have hmap : ∃ w', Soc.platform.mapMemory dramBase messageSize ⟨Soc.booted, []⟩ =
      .ok (some ⟨.dram 0 messageSize, 0⟩) w' := ⟨_, rfl⟩
  rcases hmap with ⟨w', hmap⟩
  refine ⟨?_, _, w', hmap, ?_⟩
  · have hread := ((hwords 8 (by decide) (Memory.zero 8)).1.stopped (by decide)).1
    rwa [hsum] at hread
  · exact (((hbytes _ _ _ _ _ hmap Soc.booted).1 4).stopped (by decide)).1

end BpmpMailbox
