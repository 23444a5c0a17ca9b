import BpmpMailbox.Soc.Basic

/-!
# Twelve states in one word

What setting and clearing bits of the semaphore word does to the state of each
channel. A channel's field is two bits of the word, and everything about a
state is a statement about those two bits; so the facts about `field` come
first, and the facts about `state` follow by running through the four states.

Bits that lie in the field of one channel are zero in every other field. That
is a closed statement about twelve masks, settled by evaluating it, and it is
the only reason why a change of one channel never shows in another.

The eight bits above the last field belong to no channel. No change that the
protocol makes touches them, so a word is known once its twelve states and
those eight bits are.

## Main definitions

* `Word.field`: The two bits of a channel.
* `Word.state`: The state of a channel.
* `spareBits`: The bits that belong to no channel.
* `ChannelState.raised`, `ChannelState.lowered`: A state with its low bit set, or cleared.
* `packed`: The word with given states.

## Theorems

* `Word.state_eq_ofField`: The state depends on the field alone.
* `Word.state_and_fieldMask`: Masking first and shifting then gives the same state.
* `Soc.state_eq_ok`: So does shifting alone.
* `Word.state_or_of_field_eq_zero`, `Word.state_clear_of_field_eq_zero`: Bits of other channels do
  not matter.
* `Word.state_or_acknowledged`, `Word.state_or_queued`: Setting bits of a state.
* `Word.state_clear_field`, `Word.state_clear_low`: Clearing a field or its low bit.
* `Word.eq_of_fields`: A word is determined by its fields and its spare bits.
* `Word.and_fieldMask_eq_bits_iff`: Comparing a masked word with a state tells whether the channel
  is in it.
* `Word.state_packed`, `Word.eq_packed_iff`: A packing has the states that were packed, and no other
  word without spare bits has them.
* `Word.eq_packed_or_spare`: A word is the packing of its states, and its spare bits.
-/

namespace BpmpMailbox

/-- The two bits of a channel in a packed word. -/
def Word.field (w : Word) (channel : Nat) : BitVec 2 := w.extractLsb' (fieldShift channel) 2

/-- The state of a channel in a packed word. -/
def Word.state (w : Word) (channel : Nat) : ChannelState := .ofCode (w >>> fieldShift channel)

/-- The bits of a packed word that belong to no channel. -/
def spareBits : Word := 0xff000000#32

namespace ChannelState

/-- The state with its low bit set. -/
def raised : ChannelState → ChannelState
  | .signalled | .queued => .queued
  | .free | .acknowledged => .acknowledged

/-- The state with its low bit cleared. -/
def lowered : ChannelState → ChannelState
  | .signalled | .queued => .signalled
  | .free | .acknowledged => .free

/-- The code of a state as a field. -/
def toField (s : ChannelState) : BitVec 2 := s.code.setWidth 2

/-- The state whose code is in a field. -/
def ofField (f : BitVec 2) : ChannelState := .ofCode (f.setWidth 32)

theorem toField_ofField : ∀ f : BitVec 2, (ofField f).toField = f := by
  decide

theorem ofField_toField (s : ChannelState) : ofField s.toField = s := by
  cases s <;> decide

theorem ofCode_and_three (w : Word) : ofCode w = ofCode (w &&& 0b11#32) := by
  unfold ofCode
  rw [BitVec.and_assoc, BitVec.and_self]

end ChannelState

namespace Word

theorem and_three (w : Word) : w &&& 0b11#32 = (w.extractLsb' 0 2).setWidth 32 := by
  -- The constant has its two lowest bits set, and no others.
  have hthree : ∀ j : Fin 32, (0b11#32).getLsbD j = decide (j.val < 2) := by decide
  apply BitVec.eq_of_getLsbD_eq
  intro i hi
  rw [BitVec.getLsbD_and, hthree ⟨i, hi⟩, BitVec.getLsbD_setWidth, BitVec.getLsbD_extractLsb',
    Nat.zero_add, decide_eq_true hi, Bool.true_and, Bool.and_comm]

/-- A state is read off its field alone. -/
theorem state_eq_ofField (w : Word) (channel : Nat) :
    state w channel = .ofField (field w channel) := by
  -- Shifting the word down brings the field to the two lowest bits, the only ones that count.
  have hshift : (w >>> fieldShift channel).extractLsb' 0 2 = field w channel := by
    ext i hi
    simp only [field, BitVec.getElem_extractLsb', Nat.zero_add, BitVec.getLsbD_ushiftRight]
  rw [state, ChannelState.ofCode_and_three, and_three, hshift, ChannelState.ofField]

theorem field_eq_toField (w : Word) (channel : Nat) :
    field w channel = (state w channel).toField := by
  rw [state_eq_ofField, ChannelState.toField_ofField]

theorem field_or (w v : Word) (channel : Nat) :
    field (w ||| v) channel = field w channel ||| field v channel := by
  ext i hi
  simp only [field, BitVec.getElem_extractLsb', BitVec.getLsbD_or, BitVec.getElem_or]

theorem field_and (w v : Word) (channel : Nat) :
    field (w &&& v) channel = field w channel &&& field v channel := by
  ext i hi
  simp only [field, BitVec.getElem_extractLsb', BitVec.getLsbD_and, BitVec.getElem_and]

theorem field_not (w : Word) (channel : Nat) (h : channel < channelCount) :
    field (~~~w) channel = ~~~field w channel := by
  ext i hi
  -- Past the width of the word a negation would show ones, so the field must lie inside.
  have hin : fieldShift channel + i < 32 := by
    simp only [fieldShift, channelCount] at h ⊢
    omega
  simp only [field, BitVec.getElem_extractLsb', BitVec.getLsbD_not, BitVec.getElem_not, hin,
    decide_true, Bool.true_and]

theorem field_bits (s : ChannelState) : ∀ owner channel : Fin channelCount,
    field (s.bits owner) channel = if channel = owner then s.toField else 0#2 := by
  cases s <;> decide

theorem field_fieldMask : ∀ owner channel : Fin channelCount,
    field (fieldMask owner) channel = if channel = owner then 0b11#2 else 0#2 := by
  decide

/-- The bits that turn an acknowledged channel into a free one are the low bit
    of its field. -/
theorem field_release : ∀ owner channel : Fin channelCount,
    field (ChannelState.acknowledged.bits owner ^^^ ChannelState.free.bits owner) channel =
      if channel = owner then 0b01#2 else 0#2 := by
  decide

theorem bits_inside (s : ChannelState) : ∀ channel : Fin channelCount,
    s.bits channel &&& ~~~fieldMask channel = 0#32 := by
  cases s <;> decide

theorem release_inside : ∀ channel : Fin channelCount,
    (ChannelState.acknowledged.bits channel ^^^ ChannelState.free.bits channel) &&&
      ~~~fieldMask channel = 0#32 := by
  decide

theorem state_and_fieldMask (w : Word) (channel : Fin channelCount) :
    ChannelState.ofCode ((w &&& fieldMask channel) >>> fieldShift channel) = state w channel := by
  -- The mask has both bits of the field set, so it keeps whatever the field holds.
  change state (w &&& fieldMask channel) channel = state w channel
  have hmask : field w channel &&& 0b11#2 = field w channel := by
    generalize field w channel = f
    revert f
    decide
  rw [state_eq_ofField, state_eq_ofField, field_and, field_fieldMask, if_pos rfl, hmask]

/-- Setting bits that lie in the fields of other channels keeps a state. -/
theorem state_or_of_field_eq_zero (w v : Word) (channel : Nat) (h : field v channel = 0#2) :
    state (w ||| v) channel = state w channel := by
  rw [state_eq_ofField, state_eq_ofField, field_or, h, BitVec.or_zero]

/-- Clearing bits that lie in the fields of other channels keeps a state. -/
theorem state_clear_of_field_eq_zero (w v : Word) (channel : Fin channelCount)
    (h : field v channel = 0#2) : state (w &&& ~~~v) channel = state w channel := by
  have hones : field w channel &&& ~~~0#2 = field w channel := by
    generalize field w channel = f
    revert f
    decide
  rw [state_eq_ofField, state_eq_ofField, field_and, field_not v channel channel.isLt, h, hones]

theorem state_or_bits (w : Word) (s : ChannelState) (channel : Fin channelCount) :
    state (w ||| s.bits channel) channel = .ofField ((state w channel).toField ||| s.toField) := by
  rw [state_eq_ofField, field_or, field_bits, if_pos rfl, ← field_eq_toField]

theorem state_or_acknowledged (w : Word) (channel : Fin channelCount) :
    state (w ||| ChannelState.acknowledged.bits channel) channel = .acknowledged := by
  rw [state_or_bits]
  cases state w channel <;> decide

theorem state_or_queued (w : Word) (channel : Fin channelCount) :
    state (w ||| ChannelState.queued.bits channel) channel = (state w channel).raised := by
  rw [state_or_bits]
  cases state w channel <;> decide

theorem state_clear_field (w : Word) (channel : Fin channelCount) :
    state (w &&& ~~~fieldMask channel) channel = .signalled := by
  rw [state_eq_ofField, field_and, field_not _ channel channel.isLt, field_fieldMask, if_pos rfl]
  generalize field w channel = f
  revert f
  decide

theorem state_clear_low (w : Word) (channel : Fin channelCount) :
    state (w &&& ~~~(ChannelState.acknowledged.bits channel ^^^ ChannelState.free.bits channel))
      channel = (state w channel).lowered := by
  rw [state_eq_ofField, field_and, field_not _ channel channel.isLt, field_release, if_pos rfl,
    field_eq_toField w]
  cases state w channel <;> decide

/-- A word is determined by its twelve fields and its spare bits. -/
theorem eq_of_fields (w v : Word) (hf : ∀ channel : Fin channelCount,
    field w channel = field v channel) (hs : w &&& spareBits = v &&& spareBits) : w = v := by
  apply BitVec.eq_of_getLsbD_eq
  intro i hi
  by_cases hlow : i < 24
  · -- The bit belongs to the channel at half its index.
    have hbit := congrArg (fun f : BitVec 2 => f.getLsbD (i % 2))
      (hf ⟨i / 2, by simp only [channelCount]; omega⟩)
    have hplace : 2 * (i / 2) + i % 2 = i := by omega
    simpa only [field, BitVec.getLsbD_extractLsb', fieldShift, hplace, show i % 2 < 2 by omega,
      decide_true, Bool.true_and] using hbit
  · have hbit := congrArg (fun x : Word => x.getLsbD i) hs
    -- The bit is one of the eight above the last field.
    have hspare : spareBits.getLsbD i = true := by
      have : ∀ j : Fin 32, 24 ≤ j.val → spareBits.getLsbD j = true := by decide
      exact this ⟨i, hi⟩ (by simp only; omega)
    simpa only [BitVec.getLsbD_and, hspare, Bool.and_true] using hbit

end Word

theorem Soc.state_eq_ok (s : Soc) (channel : Nat) (h : channel < channelCount) :
    s.state channel = .ok (Word.state s.word channel) := by
  -- For a channel that exists neither the product nor the shift leaves its width.
  have hmul : mulSize channel 2 = .ok (fieldShift channel) := by
    rw [mulSize, if_pos (by simp only [channelCount, addressLimit] at h ⊢; omega), Nat.mul_comm,
      fieldShift]
  have hshift : shiftRightWord s.word (fieldShift channel) =
      .ok (s.word >>> fieldShift channel) := by
    rw [shiftRightWord, if_pos (by simp only [channelCount, fieldShift] at h ⊢; omega)]
  simp only [Soc.state, hmul, hshift, bind, Except.bind, pure, Except.pure, Word.state]

/-- The word in which every channel has the given state. -/
def packed (states : Fin channelCount → ChannelState) : Word :=
  (List.finRange channelCount).foldl (fun w channel => w ||| (states channel).bits channel) 0#32

namespace Word

theorem field_foldl_of_notMem (states : Fin channelCount → ChannelState)
    (channel : Fin channelCount) :
    ∀ (owners : List (Fin channelCount)) (w : Word), channel ∉ owners →
      field (owners.foldl (fun w owner => w ||| (states owner).bits owner) w) channel =
        field w channel := by
  intro owners
  induction owners with
  | nil => intro w _; rfl
  | cons owner owners ih =>
      intro w hmem
      rw [List.mem_cons, not_or] at hmem
      rw [List.foldl_cons, ih _ hmem.2, field_or, field_bits, if_neg hmem.1, BitVec.or_zero]

/-- The field of a channel gets the state of the channel when it is the channel's turn. -/
theorem field_foldl_of_mem (states : Fin channelCount → ChannelState)
    (channel : Fin channelCount) :
    ∀ (owners : List (Fin channelCount)) (w : Word), owners.Nodup → channel ∈ owners →
      field (owners.foldl (fun w owner => w ||| (states owner).bits owner) w) channel =
        field w channel ||| (states channel).toField := by
  intro owners
  induction owners with
  | nil => intro w _ hmem; cases hmem
  | cons owner owners ih =>
      intro w hnodup hmem
      rw [List.nodup_cons] at hnodup
      rw [List.foldl_cons]
      by_cases hc : channel = owner
      · -- The turn is now, and does not come again.
        subst hc
        rw [field_foldl_of_notMem states channel _ _ hnodup.1, field_or, field_bits, if_pos rfl]
      · rcases List.mem_cons.mp hmem with heq | hmem'
        · exact absurd heq hc
        · rw [ih _ hnodup.2 hmem', field_or, field_bits, if_neg hc, BitVec.or_zero]

theorem field_packed (states : Fin channelCount → ChannelState) (channel : Fin channelCount) :
    field (packed states) channel = (states channel).toField := by
  have hzero : field 0#32 channel = 0#2 := by
    revert channel
    decide
  rw [packed, field_foldl_of_mem states channel _ _ (List.nodup_finRange _)
    (List.mem_finRange channel), hzero, BitVec.zero_or]

theorem bits_and_spareBits (s : ChannelState) : ∀ channel : Fin channelCount,
    s.bits channel &&& spareBits = 0#32 := by
  cases s <;> decide

/-- A masked word is the bits of a state exactly when the channel is in it. -/
theorem and_fieldMask_eq_bits_iff (w : Word) (s : ChannelState) (channel : Fin channelCount) :
    w &&& fieldMask channel = s.bits channel ↔ state w channel = s := by
  have hbits : state (s.bits channel) channel = s := by
    rw [state_eq_ofField, field_bits, if_pos rfl, ChannelState.ofField_toField]
  constructor
  · intro h
    have hstate : state (w &&& fieldMask channel) channel = state w channel :=
      state_and_fieldMask w channel
    rw [← hstate, h, hbits]
  · intro h
    -- Both words have the state in the field of the channel, and zeros everywhere else.
    apply eq_of_fields
    · intro other
      rw [field_and, field_fieldMask, field_bits]
      by_cases hc : other = channel
      · rw [if_pos hc, if_pos hc, hc, field_eq_toField, h]
        cases s <;> decide
      · rw [if_neg hc, if_neg hc, BitVec.and_zero]
    · have hmask : ∀ channel : Fin channelCount, fieldMask channel &&& spareBits = 0#32 := by decide
      rw [BitVec.and_assoc, hmask, BitVec.and_zero, bits_and_spareBits]

theorem foldl_and_spareBits (states : Fin channelCount → ChannelState) :
    ∀ (owners : List (Fin channelCount)) (w : Word),
      (owners.foldl (fun w owner => w ||| (states owner).bits owner) w) &&& spareBits =
        w &&& spareBits := by
  intro owners
  induction owners with
  | nil => intro w; rfl
  | cons owner owners ih =>
      intro w
      rw [List.foldl_cons, ih, BitVec.and_or_distrib_right, bits_and_spareBits, BitVec.or_zero]

theorem packed_and_spareBits (states : Fin channelCount → ChannelState) :
    packed states &&& spareBits = 0#32 := by
  rw [packed, foldl_and_spareBits, BitVec.zero_and]

theorem state_packed (states : Fin channelCount → ChannelState) (channel : Fin channelCount) :
    state (packed states) channel = states channel := by
  rw [state_eq_ofField, field_packed, ChannelState.ofField_toField]

/-- A word without spare bits is the packing of its states, and of no others. -/
theorem eq_packed_iff {w : Word} {states : Fin channelCount → ChannelState}
    (hw : w &&& spareBits = 0#32) :
    w = packed states ↔ ∀ channel : Fin channelCount, state w channel = states channel := by
  constructor
  · rintro rfl
    exact state_packed states
  · intro h
    apply eq_of_fields
    · intro channel
      rw [field_eq_toField, h, field_packed]
    · rw [hw, packed_and_spareBits]

/-- A word is the packing of its twelve states, and its spare bits. -/
theorem eq_packed_or_spare (w : Word) :
    w = packed (fun channel => state w channel) ||| (w &&& spareBits) := by
  -- The spare bits lie in no field, and the states in no spare bit.
  have hfield : ∀ channel : Fin channelCount, field spareBits channel = 0#2 := by decide
  apply eq_of_fields
  · intro channel
    rw [field_or, field_packed, field_and, hfield, BitVec.and_zero, BitVec.or_zero,
      ← field_eq_toField]
  · rw [BitVec.and_or_distrib_right, packed_and_spareBits, BitVec.zero_or, BitVec.and_assoc,
      BitVec.and_self]

end Word

end BpmpMailbox
