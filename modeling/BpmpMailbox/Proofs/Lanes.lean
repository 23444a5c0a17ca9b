import BpmpMailbox.Hardware.WordWindow
import BpmpMailbox.Proofs.Bytes
import BpmpMailbox.Proofs.Sequencing

/-!
# Byte copies through words

Hardware that moves only words copies bytes lane by lane. Over memory this is
a byte copy like any other, and the reason is one fact about one byte: writing
a word back with one lane replaced stores that byte and nothing else, because
the other three lanes are what was just read from there. A copy is then a
store of its first byte followed by a copy of the others.

What the words are reached through does not matter. `ReachesWords` asks of two
operations that they read and replace aligned words inside the memory, and
leaves open what they do elsewhere and what they note. A copy that stays among
the whole words makes no other access, wherever in a word it begins and ends.

## Main definitions

* `ReachesWords`: Two operations read and replace the words of a memory.

## Theorems

* `Word.toBytes_withLane`: Replacing a lane replaces one byte.
* `Memory.storeWord_withLane`: A word written back with one lane replaced is one byte stored.
* `readLanes_add`, `writeLanes_append`: A copy splits at any byte.
* `readLanes_run`, `writeLanes_run`: Copies through words are copies of bytes.
-/

namespace BpmpMailbox

namespace Word

theorem lane_withLane_self (w : Word) (byte : Byte) {i : Nat} (h : i < 4) :
    lane (withLane w i byte) i = byte := by
  ext k hk
  have hmask : (0xff#32).getLsbD k = true := by
    rw [show (0xff#32) = BitVec.ofNat 32 (2 ^ 8 - 1) from rfl, BitVec.getLsbD_ofNat,
      Nat.testBit_two_pow_sub_one]
    simp only [hk, show k < 32 by omega, decide_true, Bool.and_self]
  simp only [lane, withLane, BitVec.getElem_setWidth, BitVec.getLsbD_ushiftRight, BitVec.getLsbD_or,
    BitVec.getLsbD_and, BitVec.getLsbD_not, BitVec.getLsbD_shiftLeft, BitVec.getLsbD_setWidth,
    Nat.add_sub_cancel_left, hmask]
  -- The mask takes the bit out of the word, so only the bit put in is left.
  simp [show 8 * i + k < 32 by omega, show ¬ 8 * i + k < 8 * i by omega, show k < 32 by omega,
    BitVec.getLsbD_eq_getElem hk]

theorem lane_withLane_of_ne (w : Word) (byte : Byte) {i j : Nat} (hj : j < 4) (hne : j ≠ i) :
    lane (withLane w i byte) j = lane w j := by
  ext k hk
  simp only [lane, withLane, BitVec.getElem_setWidth, BitVec.getLsbD_ushiftRight, BitVec.getLsbD_or,
    BitVec.getLsbD_and, BitVec.getLsbD_not, BitVec.getLsbD_shiftLeft, BitVec.getLsbD_setWidth]
  -- The mask and the byte were shifted to lane `i`, which begins above lane `j` or ends below it.
  by_cases hlt : j < i
  · simp [show 8 * j + k < 32 by omega, show 8 * j + k < 8 * i by omega]
  · have hmask : (0xff#32).getLsbD (8 * j + k - 8 * i) = false := by
      rw [show (0xff#32) = BitVec.ofNat 32 (2 ^ 8 - 1) from rfl, BitVec.getLsbD_ofNat,
        Nat.testBit_two_pow_sub_one, decide_eq_false (by omega : ¬ 8 * j + k - 8 * i < 8),
        Bool.and_false]
    simp [hmask, show 8 * j + k < 32 by omega, show ¬ 8 * j + k < 8 * i by omega,
      BitVec.getLsbD_of_ge byte (8 * j + k - 8 * i) (by omega)]

theorem getElem?_toBytes (w : Word) {i : Nat} (h : i < 4) : (toBytes w)[i]? = some (lane w i) := by
  match i, h with
  | 0, _ | 1, _ | 2, _ | 3, _ => rfl

theorem toBytes_withLane (w : Word) (byte : Byte) {i : Nat} (h : i < 4) :
    toBytes (withLane w i byte) = (toBytes w).set i byte := by
  apply List.ext_getElem?
  intro j
  rw [List.getElem?_set, length_toBytes, if_pos h]
  by_cases hj : j < 4
  · rw [getElem?_toBytes _ hj]
    by_cases hij : i = j
    · rw [if_pos hij, ← hij, lane_withLane_self w byte h]
    · rw [if_neg hij, getElem?_toBytes w hj, lane_withLane_of_ne w byte hj (Ne.symm hij)]
  · -- Behind the last lane there is nothing on either side.
    rw [if_neg (by omega), List.getElem?_eq_none (by rw [length_toBytes]; omega),
      List.getElem?_eq_none (by rw [length_toBytes]; omega)]

end Word

namespace Memory

variable {size : Nat} (m : Memory size) {start i : Nat} (h : start + 4 ≤ size) (hi : i < 4)

include h hi

theorem getElem?_of_loadWord :
    m.bytes[start + i]? = some (Word.lane (m.loadWord start) i) := by
  rw [← Word.getElem?_toBytes _ hi, toBytes_loadWord m start h, getElem?_load, if_pos hi]

theorem storeWord_withLane (byte : Byte) :
    m.storeWord start (Word.withLane (m.loadWord start) i byte) = m.store (start + i) [byte] := by
  apply eq_of_bytes
  apply List.ext_getElem?
  intro j
  rw [storeWord, getElem?_store, getElem?_store, Word.length_toBytes, Word.toBytes_withLane _ _ hi,
    toBytes_loadWord m start h, List.getElem?_set, length_load m start 4 h, if_pos hi,
    List.length_singleton]
  by_cases hin : start ≤ j ∧ j < start + 4 ∧ j < size
  · rw [if_pos hin]
    by_cases hij : i = j - start
    · rw [if_pos hij, if_pos (by omega), show j - (start + i) = 0 by omega,
        List.getElem?_cons_zero]
    · -- One of the other three bytes of the word is written back as it was read.
      rw [if_neg hij, if_neg (by omega), getElem?_load, if_pos (by omega),
        Nat.add_sub_cancel' hin.1]
  · rw [if_neg hin, if_neg (by omega)]

end Memory

section

variable {σ : Type} (read : Nat → Action σ Word) (write : Nat → Word → Action σ Unit) (addr : Nat)

theorem readLanes_add (rest : Nat) : ∀ (count i : Nat),
    readLanes read addr i (count + rest) = (do
      let front ← readLanes read addr i count
      let back ← readLanes read addr (i + count) rest
      pure (front ++ back)) := by
  intro count
  induction count with
  | zero =>
      intro i
      simp only [Nat.zero_add, readLanes, pure_bind, List.nil_append, bind_pure, Nat.add_zero]
  | succ count ih =>
      intro i
      rw [Nat.add_right_comm, readLanes, readLanes]
      simp only [ih, bind_assoc, pure_bind, List.cons_append, Nat.add_assoc, Nat.add_comm 1]

theorem writeLanes_append (back : List Byte) : ∀ (front : List Byte) (i : Nat),
    writeLanes read write addr i (front ++ back) = (do
      writeLanes read write addr i front
      writeLanes read write addr (i + front.length) back) := by
  intro front
  induction front with
  | nil => intro i; rfl
  | cons byte front ih =>
      intro i
      rw [List.cons_append, writeLanes, writeLanes]
      simp only [ih, bind_assoc, List.length_cons, Nat.add_assoc, Nat.add_comm 1]

end

/-- On every aligned word inside the memory the two operations read it and
    replace it; what they note meanwhile is left open. -/
structure ReachesWords {size : Nat} (read : Nat → Action (Memory size) Word)
    (write : Nat → Word → Action (Memory size) Unit) : Prop where
  read : ∀ addr, addr % 4 = 0 → addr + 4 ≤ size → ∀ w : World (Memory size), ∃ events,
    read addr w = .ok (w.hardware.loadWord addr) (w.moved w.hardware events)
  write : ∀ addr value, addr % 4 = 0 → addr + 4 ≤ size → ∀ w : World (Memory size), ∃ events,
    write addr value w = .ok () (w.moved (w.hardware.storeWord addr value) events)

section

variable {size : Nat} {read : Nat → Action (Memory size) Word}
  {write : Nat → Word → Action (Memory size) Unit} (h : ReachesWords read write)
  (hsize : size < addressLimit)

include h

/-- The byte at a place is the lane of the aligned word around it. -/
theorem ReachesWords.read_around (place : Nat) (hin : place < WordWindow.wholeWords size)
    (w : World (Memory size)) :
    ∃ word events, read (place - place % 4) w = .ok word (w.moved w.hardware events) ∧
      w.hardware.bytes[place]? = some (Word.lane word (place % 4)) ∧
      ∀ byte, w.hardware.storeWord (place - place % 4) (Word.withLane word (place % 4) byte) =
        w.hardware.store place [byte] := by
  have hword : place - place % 4 + 4 ≤ size := by
    simp only [WordWindow.wholeWords] at hin
    omega
  have hlane : place % 4 < 4 := Nat.mod_lt place (by omega)
  have hplace : place - place % 4 + place % 4 = place := Nat.sub_add_cancel (Nat.mod_le place 4)
  rcases h.read (place - place % 4) (by omega) hword w with ⟨events, hread⟩
  have hbyte := Memory.getElem?_of_loadWord w.hardware hword hlane
  have hstore := Memory.storeWord_withLane w.hardware hword hlane
  rw [hplace] at hbyte hstore
  exact ⟨_, events, hread, hbyte, hstore⟩

include hsize

/-- A copy out through words gives the bytes of the memory. By induction on
    the number of bytes; each is a lane of a word that lies inside. -/
theorem readLanes_run {addr : Nat} : ∀ (count i : Nat) (w : World (Memory size)),
    addr + i + count ≤ WordWindow.wholeWords size → ∃ events,
      readLanes read addr i count w =
        .ok (w.hardware.load (addr + i) count) (w.moved w.hardware events) := by
  intro count
  induction count with
  | zero =>
      intro i w _
      refine ⟨[], ?_⟩
      rw [readLanes, pure_run, World.moved, List.append_nil, Memory.load, List.take_zero]
  | succ count ih =>
      intro i w hin
      have hwhole : WordWindow.wholeWords size ≤ size := by
        simp only [WordWindow.wholeWords]
        omega
      have hplace : addSize addr i = .ok (addr + i) := addSize_of_lt (by omega)
      rcases h.read_around (addr + i) (by omega) w with
        ⟨word, looked, hread, hbyte, -⟩
      rcases ih (i + 1) (w.moved w.hardware looked) (by omega) with ⟨rest, hrest⟩
      refine ⟨looked ++ rest, ?_⟩
      rw [readLanes, bind_ok (ofExcept_ok hplace w), bind_ok hread, bind_ok hrest, pure_run,
        World.moved_moved, World.moved_hardware, Memory.load_succ _ hbyte, Nat.add_assoc]

/-- A copy in through words replaces the bytes of the memory. By induction on
    the bytes; each is stored alone, and the stores join up. -/
theorem writeLanes_run {addr : Nat} : ∀ (data : List Byte) (i : Nat) (w : World (Memory size)),
    addr + i + data.length ≤ WordWindow.wholeWords size → ∃ events,
      writeLanes read write addr i data w =
        .ok () (w.moved (w.hardware.store (addr + i) data) events) := by
  intro data
  induction data with
  | nil =>
      intro i w _
      refine ⟨[], ?_⟩
      rw [writeLanes, pure_run, Memory.store_nil, World.moved, List.append_nil]
  | cons byte data ih =>
      intro i w hin
      rw [List.length_cons] at hin
      have hwhole : WordWindow.wholeWords size ≤ size := by
        simp only [WordWindow.wholeWords]
        omega
      have hplace : addSize addr i = .ok (addr + i) := addSize_of_lt (by omega)
      rcases h.read_around (addr + i) (by omega) w with
        ⟨word, looked, hread, -, hstore⟩
      -- Writing the word back stores the one byte.
      rcases h.write (addr + i - (addr + i) % 4) (Word.withLane word ((addr + i) % 4) byte)
        (by omega) (by simp only [WordWindow.wholeWords] at hin; omega)
        (w.moved w.hardware looked) with ⟨changed, hwrite⟩
      rw [World.moved_hardware, hstore, World.moved_moved] at hwrite
      rcases ih (i + 1) (w.moved (w.hardware.store (addr + i) [byte]) (looked ++ changed))
        (by omega) with ⟨rest, hrest⟩
      have hjoin := Memory.store_append w.hardware (addr + i) [byte] data
      rw [List.length_singleton, Nat.add_assoc addr] at hjoin
      refine ⟨looked ++ changed ++ rest, ?_⟩
      rw [writeLanes, bind_ok (ofExcept_ok hplace w), bind_ok hread, bind_ok hwrite, hrest,
        World.moved_moved, World.moved_hardware, hjoin, List.singleton_append]

end

end BpmpMailbox
