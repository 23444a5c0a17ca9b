import BpmpMailbox.Hardware.Memory

/-!
# Bytes in memory

What a load sees of earlier stores. A load is a row of bytes of the memory, so
every fact here is read off byte by byte from `getElem?_store`: inside the
stored range a byte is one of the data, outside it is what it was.

A store that replaces the first bytes of a longer range is the case the
message areas need. The range then begins with the data and goes on with what
it held before from that position, and that is all that a short payload
written over a long one does.

## Theorems

* `Memory.getElem?_load`, `Memory.length_load`: A load byte by byte.
* `Memory.load_add`: A load splits at any point.
* `Memory.load_congr`: Memories that agree on a range load the same bytes from it.
* `Memory.load_store_self`: A load of the stored range gives the data.
* `Memory.load_store_of_disjoint`: A load elsewhere is not affected.
* `Memory.load_store_of_le`: A load that begins where the store does.
* `Memory.store_append`: A store splits at any point.
* `Memory.bytes_store_zero`: Replacing the first bytes leaves the others.
* `Memory.loadWord_storeWord`: A word is read back as it was stored.
* `Word.toBytes_ofBytes`: Four bytes are read back as they were.
-/

namespace BpmpMailbox

namespace Word

theorem length_toBytes (w : Word) : (toBytes w).length = 4 := rfl

theorem lane_ofBytes_zero (b : Byte) (bytes : List Byte) : lane (ofBytes (b :: bytes)) 0 = b := by
  ext i hi
  simp [lane, ofBytes]

theorem lane_ofBytes_succ (b : Byte) (bytes : List Byte) (i : Nat) (h : i < 3) :
    lane (ofBytes (b :: bytes)) (i + 1) = lane (ofBytes bytes) i := by
  ext j hj
  simp only [lane, ofBytes, BitVec.getElem_setWidth, BitVec.getLsbD_ushiftRight,
    BitVec.getLsbD_or, BitVec.getLsbD_shiftLeft, BitVec.getLsbD_setWidth]
  -- Every byte but the lowest comes from the part that was shifted up by eight.
  rw [show 8 * (i + 1) + j - 8 = 8 * i + j by omega]
  simp [show 8 * (i + 1) + j < 32 by omega, show ¬ 8 * (i + 1) + j < 8 by omega,
    BitVec.getLsbD_of_ge b (8 * (i + 1) + j) (by omega)]

theorem toBytes_ofBytes (bytes : List Byte) (h : bytes.length = 4) :
    toBytes (ofBytes bytes) = bytes := by
  -- Four bytes, and each lane of the word picks the byte in its place.
  match bytes, h with
  | [a, b, c, d], _ =>
      simp only [toBytes]
      rw [lane_ofBytes_zero, lane_ofBytes_succ _ _ 0 (by omega), lane_ofBytes_succ _ _ 1 (by omega),
        lane_ofBytes_succ _ _ 2 (by omega), lane_ofBytes_zero, lane_ofBytes_succ _ _ 0 (by omega),
        lane_ofBytes_succ _ _ 1 (by omega), lane_ofBytes_zero, lane_ofBytes_succ _ _ 0 (by omega),
        lane_ofBytes_zero]

end Word

namespace Memory

variable {size : Nat}

theorem eq_of_bytes : ∀ {m n : Memory size}, m.bytes = n.bytes → m = n
  | ⟨_, _⟩, ⟨_, _⟩, rfl => rfl

theorem getElem?_load (m : Memory size) (start count i : Nat) :
    (m.load start count)[i]? = if i < count then m.bytes[start + i]? else none := by
  simp only [load, List.getElem?_take, List.getElem?_drop]

/-- Memories that agree on some bytes agree on a load of them. -/
theorem load_congr {m n : Memory size} {start count : Nat}
    (h : ∀ i, start ≤ i → i < start + count → n.bytes[i]? = m.bytes[i]?) :
    n.load start count = m.load start count := by
  apply List.ext_getElem?
  intro i
  rw [getElem?_load, getElem?_load]
  by_cases hi : i < count
  · rw [if_pos hi, if_pos hi, h _ (Nat.le_add_right _ _) (Nat.add_lt_add_left hi _)]
  · rw [if_neg hi, if_neg hi]

theorem length_load (m : Memory size) (start count : Nat) (h : start + count ≤ size) :
    (m.load start count).length = count := by
  have hlen := m.length_bytes
  simp only [load, List.length_take, List.length_drop]
  omega

theorem load_add (m : Memory size) (start a b : Nat) :
    m.load start (a + b) = m.load start a ++ m.load (start + a) b := by
  simp only [load, List.take_add, List.drop_drop]

theorem take_load (m : Memory size) (start count n : Nat) :
    (m.load start count).take n = m.load start (min n count) := by
  simp only [load, List.take_take]

theorem drop_load (m : Memory size) (start count n : Nat) :
    (m.load start count).drop n = m.load (start + n) (count - n) := by
  simp only [load, List.drop_take, List.drop_drop]

/-- A load begins with its first byte. -/
theorem load_succ (m : Memory size) {start count : Nat} {byte : Byte}
    (h : m.bytes[start]? = some byte) :
    m.load start (count + 1) = byte :: m.load (start + 1) count := by
  have hone : m.load start 1 = [byte] := by
    apply List.ext_getElem?
    intro i
    rw [getElem?_load]
    cases i with
    | zero => rw [if_pos Nat.one_pos, Nat.add_zero, h, List.getElem?_cons_zero]
    | succ i => rw [if_neg (by omega), List.getElem?_eq_none (by simp)]
  rw [Nat.add_comm count, load_add, hone, List.singleton_append]

theorem store_nil (m : Memory size) (start : Nat) : m.store start [] = m := by
  apply eq_of_bytes
  simp only [store, List.take_nil, List.length_nil, Nat.add_zero, List.nil_append,
    List.take_append_drop]

theorem store_append (m : Memory size) (start : Nat) (front back : List Byte) :
    (m.store start front).store (start + front.length) back = m.store start (front ++ back) := by
  apply eq_of_bytes
  apply List.ext_getElem?
  intro i
  -- A byte stored is one of the front or one of the back, by where the front ends.
  rw [getElem?_store, getElem?_store, getElem?_store, List.length_append, List.getElem?_append]
  grind

/-- Replacing the first bytes of a memory leaves the others. -/
theorem bytes_store_zero (m : Memory size) {data : List Byte} (h : data.length ≤ size) :
    (m.store 0 data).bytes = data ++ m.bytes.drop data.length := by
  simp only [store, List.take_zero, List.nil_append, Nat.sub_zero, Nat.zero_add,
    List.take_of_length_le h]

theorem prefix_store_zero (m : Memory size) {data : List Byte} (h : data.length ≤ size) :
    data <+: (m.store 0 data).bytes :=
  ⟨m.bytes.drop data.length, (bytes_store_zero m h).symm⟩

theorem load_store_self (m : Memory size) (start : Nat) (data : List Byte)
    (h : start + data.length ≤ size) : (m.store start data).load start data.length = data := by
  apply List.ext_getElem?
  intro i
  -- Inside the stored range both sides are the data, behind it both have ended.
  rw [getElem?_load, getElem?_store]
  by_cases hi : i < data.length
  · rw [if_pos hi, if_pos (by omega), Nat.add_sub_cancel_left]
  · rw [if_neg hi, List.getElem?_eq_none (by omega)]

theorem load_store_of_disjoint (m : Memory size) (start : Nat) (data : List Byte)
    (place count : Nat) (h : place + count ≤ start ∨ start + data.length ≤ place) :
    (m.store start data).load place count = m.load place count := by
  refine load_congr fun i hle hlt => ?_
  -- No byte loaded is one of those stored.
  rw [getElem?_store, if_neg (by omega)]

/-- A load that begins where the store does sees the data, then what was there
    before from that position on. -/
theorem load_store_of_le (m : Memory size) (start : Nat) (data : List Byte) (count : Nat)
    (hd : data.length ≤ count) (h : start + data.length ≤ size) :
    (m.store start data).load start count = data ++ (m.load start count).drop data.length := by
  have hrest : (m.store start data).load (start + data.length) (count - data.length) =
      m.load (start + data.length) (count - data.length) :=
    load_store_of_disjoint m start data _ _ (Or.inr (Nat.le_refl _))
  -- Split the load where the data ends; the second part does not meet the store.
  calc (m.store start data).load start count
      = (m.store start data).load start (data.length + (count - data.length)) := by
        rw [Nat.add_sub_cancel' hd]
    _ = data ++ m.load (start + data.length) (count - data.length) := by
        rw [load_add, load_store_self m start data h, hrest]
    _ = data ++ (m.load start count).drop data.length := by rw [drop_load]

theorem toBytes_loadWord (m : Memory size) (start : Nat) (h : start + 4 ≤ size) :
    Word.toBytes (m.loadWord start) = m.load start 4 :=
  Word.toBytes_ofBytes _ (length_load m start 4 h)

theorem loadWord_storeWord (m : Memory size) (start : Nat) (w : Word) (h : start + 4 ≤ size) :
    (m.storeWord start w).loadWord start = w := by
  have hload := load_store_self m start (Word.toBytes w) (by rw [Word.length_toBytes]; exact h)
  rw [Word.length_toBytes] at hload
  rw [loadWord, storeWord, hload, Word.ofBytes_toBytes]

end Memory

end BpmpMailbox
