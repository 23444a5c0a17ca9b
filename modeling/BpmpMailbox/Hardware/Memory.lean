import BpmpMailbox.Word

/-!
# Memory

Plain memory of a fixed size, and nothing more: a row of bytes that can be read
and replaced. The size is part of the type, so replacing bytes cannot change
it. Reading past the end gives fewer bytes and writing past the end stores what
fits. The windows laid over a memory decide which accesses are allowed at all,
and none of them lets an access get that far.

## Main definitions

* `Memory`: A row of bytes of a given length.
* `Memory.zero`: All bytes zero.
* `Memory.load`, `Memory.store`: Read and replace bytes.
* `Memory.loadWord`, `Memory.storeWord`: Read and replace one word.

## Theorems

* `Memory.getElem?_store`: What a byte is after a store.
* `Memory.load_eq_self`: Loading everything gives the row.
-/

namespace BpmpMailbox

/-- A row of `size` bytes. -/
structure Memory (size : Nat) where
  bytes : List Byte
  length_bytes : bytes.length = size
  deriving DecidableEq

namespace Memory

variable {size : Nat}

/-- The memory with all bytes zero. -/
def zero (size : Nat) : Memory size := ⟨List.replicate size 0#8, List.length_replicate⟩

instance : Inhabited (Memory size) := ⟨zero size⟩

/-- The `count` bytes from `start` on. -/
def load (m : Memory size) (start count : Nat) : List Byte := (m.bytes.drop start).take count

/-- The memory with the bytes from `start` on replaced by `data`. -/
def store (m : Memory size) (start : Nat) (data : List Byte) : Memory size where
  bytes := m.bytes.take start ++ (data.take (size - start) ++ m.bytes.drop (start + data.length))
  length_bytes := by
    have := m.length_bytes
    simp only [List.length_append, List.length_take, List.length_drop]
    omega

/-- The word at `start`. -/
def loadWord (m : Memory size) (start : Nat) : Word := Word.ofBytes (m.load start 4)

/-- The memory with the word at `start` replaced. -/
def storeWord (m : Memory size) (start : Nat) (w : Word) : Memory size :=
  m.store start (Word.toBytes w)

theorem load_eq_self (m : Memory size) : m.load 0 size = m.bytes := by
  simp [load, ← m.length_bytes]

theorem getElem?_store (m : Memory size) (start : Nat) (data : List Byte) (i : Nat) :
    (m.store start data).bytes[i]? =
      if start ≤ i ∧ i < start + data.length ∧ i < size then data[i - start]?
      else m.bytes[i]? := by
  have hlen := m.length_bytes
  simp only [store, List.getElem?_append, List.length_take, List.getElem?_take, List.getElem?_drop]
  grind

end Memory

end BpmpMailbox
