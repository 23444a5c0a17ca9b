import BpmpMailbox.Proofs.Effects.Region

/-!
# Memory by physical address

Windows of different bases and sizes, and the firmware, which uses none, all
reach the same bytes. What they have in common is the physical address of a
byte, so this is how the memory is looked at here, and the place of a byte
within the row that holds the memory does not appear.

What a byte is after many writes is told by the last one that covers it. Who
wrote, and through which window, makes no difference to it, and this is all
that there is to say about windows that overlap.

## Main definitions

* `Soc.byteAt`: The byte at a physical address.
* `Soc.Holds`: Some bytes lie in the memory from an address on.
* `MemoryWrite`: Bytes written from a physical address on.
* `lastWritten`: What was last written to an address.
* `Soc.Rewritten`: The memory is the one before, with some writes done to it.

## Theorems

* `lastWritten_append`: Later writes come first.
* `Soc.Rewritten.trans`: Writes after writes.
* `Soc.rewritten_stored`: Replacing bytes of the memory is one write.
* `Soc.holds_load`: A load gives the bytes that lie there.
-/

namespace BpmpMailbox

/-- Bytes written from a physical address on. -/
structure MemoryWrite where
  start : Nat
  data : List Byte
  deriving DecidableEq, Repr

/-- What a write puts at an address, if it reaches it. -/
def MemoryWrite.byteAt (write : MemoryWrite) (phys : Nat) : Option Byte :=
  if write.start ≤ phys then write.data[phys - write.start]? else none

/-- What was last written to an address, if anything was. -/
def lastWritten (phys : Nat) : List MemoryWrite → Option Byte
  | [] => none
  | write :: writes => (lastWritten phys writes).or (write.byteAt phys)

theorem lastWritten_append (phys : Nat) (before after : List MemoryWrite) :
    lastWritten phys (before ++ after) =
      (lastWritten phys after).or (lastWritten phys before) := by
  induction before with
  | nil => rw [List.nil_append, lastWritten, Option.or_none]
  | cons write before ih => rw [List.cons_append, lastWritten, ih, Option.or_assoc, lastWritten]

/-- A write that ends before an address, or begins after it, leaves it alone. -/
theorem MemoryWrite.byteAt_eq_none {write : MemoryWrite} {phys : Nat}
    (h : phys < write.start ∨ write.start + write.data.length ≤ phys) :
    write.byteAt phys = none := by
  unfold byteAt
  split
  · exact List.getElem?_eq_none (by omega)
  · rfl

theorem lastWritten_eq_none {phys : Nat} {writes : List MemoryWrite}
    (h : ∀ write ∈ writes, write.byteAt phys = none) : lastWritten phys writes = none := by
  induction writes with
  | nil => rfl
  | cons write writes ih =>
      rcases List.forall_mem_cons.mp h with ⟨hwrite, hwrites⟩
      rw [lastWritten, ih hwrites, hwrite, Option.or_none]

namespace Soc

/-- The byte at a physical address, if the chip has memory there. -/
def byteAt (s : Soc) (phys : Nat) : Option Byte :=
  if dramBase ≤ phys then s.dram.bytes[phys - dramBase]? else none

/-- The bytes lie in the memory from a physical address on. -/
def Holds (s : Soc) (phys : Nat) (bytes : List Byte) : Prop :=
  ∀ i < bytes.length, bytes[i]? = s.byteAt (phys + i)

/-- The memory of the chip is the one before with these writes done to it, one
    after the other. -/
def Rewritten (s t : Soc) (writes : List MemoryWrite) : Prop :=
  ∀ phys, t.byteAt phys = (lastWritten phys writes).or (s.byteAt phys)

variable {s t u : Soc} {before after : List MemoryWrite}

theorem Rewritten.of_dram_eq (h : t.dram = s.dram) : s.Rewritten t [] := by
  intro phys
  rw [lastWritten, Option.none_or, byteAt, byteAt, h]

theorem Rewritten.trans (h : s.Rewritten t before) (h' : t.Rewritten u after) :
    s.Rewritten u (before ++ after) := by
  intro phys
  rw [h' phys, h phys, lastWritten_append, Option.or_assoc]

/-- What is not memory may change afterwards. -/
theorem Rewritten.congr (h : s.Rewritten t before) (hdram : u.dram = t.dram) :
    s.Rewritten u before := by
  have hboth := h.trans (.of_dram_eq hdram)
  rwa [List.append_nil] at hboth

/-- Replacing bytes of the memory is one write. -/
theorem rewritten_stored (s : Soc) {place : Nat} {data : List Byte}
    (h : place + data.length ≤ dramSize) :
    s.Rewritten (s.stored place data) [⟨dramBase + place, data⟩] := by
  intro phys
  simp only [lastWritten, Option.none_or, MemoryWrite.byteAt, byteAt, stored]
  by_cases hbase : dramBase ≤ phys
  · rw [if_pos hbase, if_pos hbase, Memory.getElem?_store]
    by_cases hin : dramBase + place ≤ phys
    · rw [if_pos hin, Nat.sub_add_eq]
      by_cases hdata : phys - dramBase - place < data.length
      · rw [if_pos (by omega), List.getElem?_eq_getElem hdata, Option.some_or]
      · -- Behind the data the byte is what it was.
        rw [if_neg (by omega), List.getElem?_eq_none (Nat.not_lt.mp hdata), Option.none_or]
    · rw [if_neg (by omega), if_neg hin, Option.none_or]
  · rw [if_neg hbase, if_neg hbase, if_neg (by omega), Option.none_or]

/-- A load gives the bytes that lie at the physical addresses. -/
theorem holds_load (s : Soc) (place count : Nat) :
    s.Holds (dramBase + place) (s.dram.load place count) := by
  intro i hi
  have hcount : i < count := Nat.lt_of_lt_of_le hi (List.length_take_le _ _)
  have hplace : dramBase + place + i - dramBase = place + i := by omega
  rw [Memory.getElem?_load, if_pos hcount, byteAt, if_pos (by omega), hplace]

end Soc

end BpmpMailbox
