import BpmpMailbox.Proofs.Lanes
import BpmpMailbox.Proofs.WindowGuards

/-!
# Byte copies on a register window

A register window moves words only, so its byte copies go lane by lane, each
byte through the word around it. Two things can be asked of them that words
leave open. A window need not end with a whole word, and then its last bytes
lie in no word and are out of reach; and a copy that meets the end of what is
within reach stops in the middle.

The answer is that a copy is as good as a copy byte by byte. It can begin
anywhere in a word and end anywhere. A copy into the window that does not fit
stores the bytes that do and stops at the first one that does not, and no byte
beside those is different afterwards, although every store wrote four. A copy
out changes nothing in any case.

A copy is split where the reach ends. The first part is the copy of memory
that `ReachesWords` gives, and the second part stops at its first byte, in the
read that comes before any write.

## Main definitions

* `WordWindow.reached`: How many bytes of a copy are within reach.
* `WordWindow.copyRejection`: The fault that stops a copy at a byte.
* `CopiedIn`: A copy into the window stores what is within reach, and no more.

## Theorems

* `WordWindow.reachesWords`: Within reach the window is memory.
* `WordWindow.lane_outside`: Out of reach a copy stops before it writes.
* `WordWindow.writeBytes_run`, `WordWindow.writeBytes_stopped`, `WordWindow.readBytes_run`,
  `WordWindow.readBytes_stopped`: The ends of a copy.
* `writeBytes_ends`: What a copy in leaves, whichever way it ends.
* `copies_exact`: Copies in and out, for every window, address and number of bytes.
-/

namespace BpmpMailbox

open Script (runStep)

namespace WordWindow

/-- How many of the `count` bytes from `addr` on lie in whole words of the window. -/
def reached (size addr count : Nat) : Nat := min count (wholeWords size - addr)

/-- The fault that stops a copy at a byte: the place of the byte does not fit,
    or the word around it is rejected. -/
def copyRejection (place : Nat) : Fault :=
  if addressLimit ≤ place then .overflow .add else rejection (place - place % 4)

variable {size : Nat}

theorem reachesWords (hsize : size < addressLimit) :
    ReachesWords (bus size).read (bus size).write where
  read addr haligned hin w := ⟨[], by
    rw [read_run hsize ⟨haligned, hin⟩, World.moved, List.append_nil]⟩
  write _ value haligned hin w := ⟨[], write_run hsize ⟨haligned, hin⟩ value w⟩

section

variable {addr i : Nat} (hout : wholeWords size ≤ addr + i) (w : World (Memory size))

include hout

/-- At a byte out of reach a copy stops, whatever it would have done with the
    word around the byte. -/
theorem lane_outside {α : Type} (next : Nat → Word → Action (Memory size) α) :
    (do
      let place ← Action.ofExcept (addSize addr i)
      let word ← (bus size).read (place - place % 4)
      next place word) w = .error (.fault (copyRejection (addr + i))) w := by
  unfold copyRejection
  by_cases hfits : addressLimit ≤ addr + i
  · rw [bind_error (ofExcept_error (addSize_of_le hfits) w), if_pos hfits]
  · have hsum := addSize_of_lt (Nat.not_le.mp hfits)
    -- The word around the byte begins where the whole words have ended, or later.
    have hword : ¬((addr + i - (addr + i) % 4) % 4 = 0 ∧ addr + i - (addr + i) % 4 + 4 ≤ size) := by
      simp only [wholeWords] at hout
      omega
    rw [bind_ok (ofExcept_ok hsum w), bind_error (read_outside hword w), if_neg hfits]

theorem readLanes_outside (count : Nat) :
    readLanes (bus size).read addr i (count + 1) w =
      .error (.fault (copyRejection (addr + i))) w := by
  rw [readLanes, lane_outside hout w]

theorem writeLanes_outside (byte : Byte) (data : List Byte) :
    writeLanes (bus size).read (bus size).write addr i (byte :: data) w =
      .error (.fault (copyRejection (addr + i))) w := by
  rw [writeLanes, lane_outside hout w]

end

section

variable (hsize : size < addressLimit) {addr : Nat} (w : World (Memory size))

include hsize

theorem readBytes_run {count : Nat} (h : count ≤ wholeWords size - addr) : ∃ events,
    (bus size).readBytes addr count w =
      .ok (w.hardware.load addr count) (w.moved w.hardware events) := by
  cases count with
  | zero => exact ⟨[], by rw [World.moved, List.append_nil, Memory.load, List.take_zero]; rfl⟩
  | succ count =>
      have hin : addr + 0 + (count + 1) ≤ wholeWords size := by omega
      have hrun := readLanes_run (reachesWords hsize) hsize (count + 1) 0 w hin
      rwa [Nat.add_zero] at hrun

theorem writeBytes_run {data : List Byte} (h : data.length ≤ wholeWords size - addr) : ∃ events,
    (bus size).writeBytes addr data w = .ok () (w.moved (w.hardware.store addr data) events) := by
  cases data with
  | nil => exact ⟨[], by rw [Memory.store_nil, World.moved, List.append_nil]; rfl⟩
  | cons byte data =>
      rw [List.length_cons] at h
      have hin : addr + 0 + (byte :: data).length ≤ wholeWords size := by
        rw [List.length_cons]
        omega
      have hrun := writeLanes_run (reachesWords hsize) hsize (byte :: data) 0 w hin
      rwa [Nat.add_zero] at hrun

/-- A copy out that leaves the reach stops at the first byte outside. -/
theorem readBytes_stopped {count : Nat} (h : wholeWords size - addr < count) : ∃ events,
    (bus size).readBytes addr count w =
      .error (.fault (copyRejection (addr + (wholeWords size - addr))))
        (w.moved w.hardware events) := by
  rcases readBytes_run hsize w (Nat.le_refl (wholeWords size - addr)) with ⟨events, hfront⟩
  rcases Nat.exists_eq_add_of_lt h with ⟨rest, rfl⟩
  refine ⟨events, ?_⟩
  change readLanes (bus size).read addr 0 (wholeWords size - addr) w = _ at hfront
  change readLanes (bus size).read addr 0 (wholeWords size - addr + (rest + 1)) w = _
  rw [readLanes_add, bind_ok hfront, Nat.zero_add,
    bind_error (readLanes_outside (by omega) _ rest)]

/-- A copy in that leaves the reach stops at the first byte outside, and has
    stored the bytes before it. -/
theorem writeBytes_stopped {data : List Byte} (h : wholeWords size - addr < data.length) :
    ∃ events, (bus size).writeBytes addr data w =
      .error (.fault (copyRejection (addr + (wholeWords size - addr))))
        (w.moved (w.hardware.store addr (data.take (wholeWords size - addr))) events) := by
  have hlen : (data.take (wholeWords size - addr)).length = wholeWords size - addr :=
    List.length_take_of_le (Nat.le_of_lt h)
  rcases writeBytes_run hsize w (Nat.le_of_eq hlen) with ⟨events, hfront⟩
  have hout : wholeWords size ≤ addr + (wholeWords size - addr) := by omega
  have hback := writeLanes_outside hout
    (w.moved (w.hardware.store addr (data.take (wholeWords size - addr))) events)
    (data[wholeWords size - addr]) (data.drop (wholeWords size - addr + 1))
  rw [← List.drop_eq_getElem_cons h] at hback
  refine ⟨events, ?_⟩
  change writeLanes (bus size).read (bus size).write addr 0 (data.take _) w = _ at hfront
  change writeLanes (bus size).read (bus size).write addr 0 data w = _
  conv_lhs => rw [← List.take_append_drop (wholeWords size - addr) data]
  rw [writeLanes_append, bind_ok hfront, Nat.zero_add, hlen, hback]

end

end WordWindow

/-- What a copy of bytes into a register window comes to: the bytes within
    reach are stored and every other byte is as it was. -/
structure CopiedIn {size : Nat} (m : Memory size) (addr : Nat) (data : List Byte) : Prop where
  bytes : ∀ i, (runStep m ((WordWindow.bus size).writeBytes addr data)).after.bytes[i]? =
    if addr ≤ i ∧ i < addr + WordWindow.reached size addr data.length then data[i - addr]?
    else m.bytes[i]?
  completed_iff : (runStep m ((WordWindow.bus size).writeBytes addr data)).result = .ok () ↔
    WordWindow.reached size addr data.length = data.length
  stopped : WordWindow.reached size addr data.length < data.length →
    (runStep m ((WordWindow.bus size).writeBytes addr data)).result =
      .error (.fault (WordWindow.copyRejection
        (addr + WordWindow.reached size addr data.length)))
  /-- After a completed copy the same range gives the data. -/
  readBack : (runStep m ((WordWindow.bus size).writeBytes addr data)).result = .ok () →
    (runStep (runStep m ((WordWindow.bus size).writeBytes addr data)).after
      ((WordWindow.bus size).readBytes addr data.length)).result = .ok data

section

variable {size : Nat} (hsize : size < addressLimit) (m : Memory size) (addr : Nat)

include hsize

theorem readBytes_guarded (count : Nat) :
    Guarded m ((WordWindow.bus size).readBytes addr count)
      (count = 0 ∨ addr + count ≤ WordWindow.wholeWords size)
      (WordWindow.copyRejection (addr + WordWindow.reached size addr count))
      (m.load addr count) m := by
  by_cases hreach : count ≤ WordWindow.wholeWords size - addr
  · exact Guarded.of_cases (fun _ => WordWindow.readBytes_run hsize ⟨m, []⟩ hreach)
      fun hout => absurd hreach (by omega)
  · refine Guarded.of_cases (fun hin => absurd hin (by omega)) fun _ => ?_
    rw [WordWindow.reached, Nat.min_eq_right (by omega)]
    exact WordWindow.readBytes_stopped hsize ⟨m, []⟩ (Nat.not_le.mp hreach)

/-- What a copy in leaves, and how it ends: the part within reach is stored,
    and there is a fault when that is not all. -/
theorem writeBytes_ends (data : List Byte) :
    (runStep m ((WordWindow.bus size).writeBytes addr data)).after =
        m.store addr (data.take (WordWindow.reached size addr data.length)) ∧
      (runStep m ((WordWindow.bus size).writeBytes addr data)).result =
        if WordWindow.reached size addr data.length = data.length then .ok ()
        else .error (.fault (WordWindow.copyRejection
          (addr + WordWindow.reached size addr data.length))) := by
  by_cases hreach : data.length ≤ WordWindow.wholeWords size - addr
  · rcases WordWindow.writeBytes_run hsize ⟨m, []⟩ hreach with ⟨events, hrun⟩
    have hreached : WordWindow.reached size addr data.length = data.length :=
      Nat.min_eq_left hreach
    rw [runStep_ok hrun, hreached, List.take_length, if_pos rfl]
    exact ⟨rfl, rfl⟩
  · rcases WordWindow.writeBytes_stopped hsize ⟨m, []⟩ (Nat.not_le.mp hreach) with ⟨events, hrun⟩
    have hreached : WordWindow.reached size addr data.length = WordWindow.wholeWords size - addr :=
      Nat.min_eq_right (by omega)
    rw [runStep_error hrun, hreached, if_neg (by omega)]
    exact ⟨rfl, rfl⟩

theorem writeBytes_copiedIn (data : List Byte) : CopiedIn m addr data := by
  have hwhole : WordWindow.wholeWords size ≤ size := by
    simp only [WordWindow.wholeWords]
    omega
  have hreached : WordWindow.reached size addr data.length =
    min data.length (WordWindow.wholeWords size - addr) := rfl
  rcases writeBytes_ends hsize m addr data with ⟨hafter, hresult⟩
  have hcompleted : (runStep m ((WordWindow.bus size).writeBytes addr data)).result = .ok () ↔
      WordWindow.reached size addr data.length = data.length := by
    rw [hresult]
    split
    · next h => exact iff_of_true rfl h
    · next h => exact iff_of_false (by simp only [reduceCtorEq, not_false_eq_true]) h
  refine ⟨fun i => ?_, hcompleted, fun hlt => by rw [hresult, if_neg (Nat.ne_of_lt hlt)],
    fun hok => ?_⟩
  · rw [hafter, Memory.getElem?_store, List.length_take]
    by_cases hi : addr ≤ i ∧ i < addr + WordWindow.reached size addr data.length
    · -- A byte within reach is a byte of the window.
      rw [if_pos hi, if_pos (by omega), List.getElem?_take_of_lt (by omega)]
    · rw [if_neg hi, if_neg (by omega)]
  · have hall := hcompleted.mp hok
    have hback := (readBytes_guarded hsize (m.store addr data) addr data.length).carriedOut
      (by omega)
    -- Past the end nothing is within reach, so a completed copy had no data there.
    have hload : (m.store addr data).load addr data.length = data := by
      cases data with
      | nil => exact List.take_zero
      | cons byte data =>
          rw [List.length_cons] at hreached hall
          exact Memory.load_store_self m addr (byte :: data) (by rw [List.length_cons]; omega)
    rw [hafter, hall, List.take_length, hback.1, hload]

/-- Copies of bytes through the words of a register window are copies byte by
    byte, wherever in a word they begin and end. A copy in stores the bytes that
    are within reach, leaves every other byte as it was, and stops when there are
    more; a copy out gives the bytes of the window when all are within reach,
    stops otherwise, and changes nothing. -/
theorem copies_exact :
    (∀ data, CopiedIn m addr data) ∧
    ∀ count, Guarded m ((WordWindow.bus size).readBytes addr count)
      (count = 0 ∨ addr + count ≤ WordWindow.wholeWords size)
      (WordWindow.copyRejection (addr + WordWindow.reached size addr count))
      (m.load addr count) m :=
  ⟨writeBytes_copiedIn hsize m addr, readBytes_guarded hsize m addr⟩

end

/-- Of a window of ten bytes eight are within reach, so of three bytes copied to
    address six two are stored, and the third stops the copy. -/
theorem copies_exact_incomplete :
    (runStep (Memory.zero 10) ((WordWindow.bus 10).writeBytes 6 [1#8, 2#8, 3#8])).result =
        .error (.fault (.wordOutsideWindow 8)) ∧
      ∀ i, (runStep (Memory.zero 10)
          ((WordWindow.bus 10).writeBytes 6 [1#8, 2#8, 3#8])).after.bytes[i]? =
        if 6 ≤ i ∧ i < 8 then [1#8, 2#8, 3#8][i - 6]? else (Memory.zero 10).bytes[i]? := by
  have hcopied := (copies_exact (by decide) (Memory.zero 10) 6).1 [1#8, 2#8, 3#8]
  exact ⟨hcopied.stopped (by decide), hcopied.bytes⟩

end BpmpMailbox
