import BpmpMailbox.Proofs.Effects.Semaphore

/-!
# Reading a packed word

Twelve states are written into a word one by one and read off it in five ways.
The chip shifts the word and takes two bits. The semaphore masks the channel's
field before it shifts, and its three questions do not shift at all: each
compares the masked field with the bits of one state. No two of these share
more than the mask, so it is a matter of proof that they find the same state.

They do so in every word, whatever stands in the bits that belong to no
channel, and those bits are all that is lost when the states of a word are
packed again.

## Main definitions

* `Semaphore.Finds`: The semaphore finds a channel in a state.
* `Word.Decodes`: So does everything that reads the word.

## Theorems

* `Word.decodes_state`: The five ways to read a word agree.
* `Word.packed_state`: Packing the states of a word gives its low bits.
* `packing_exact`: Packing and reading are inverse to each other.
-/

namespace BpmpMailbox

/-- The semaphore finds a channel in this state, and of the three questions
    whether it is free, signalled or acknowledged the matching one is true. For
    a queued channel none is. -/
structure Semaphore.Finds {σ : Type} (s : Semaphore σ) (channel : Nat) (state : ChannelState)
    (w w' : World σ) : Prop where
  state? : s.state? channel w = .ok (some state) w'
  isFree : s.isFree channel w = .ok (decide (state = .free)) w'
  isSignalled : s.isSignalled channel w = .ok (decide (state = .signalled)) w'
  isAcknowledged : s.isAcknowledged channel w = .ok (decide (state = .acknowledged)) w'

/-- Everything that reads this word finds the channel in this state: the chip
    that holds the word, and a semaphore whose registers answer with it. -/
structure Word.Decodes (word : Word) (channel : Nat) (state : ChannelState) : Prop where
  chip : ∀ s : Soc, s.word = word → s.state channel = .ok state
  semaphore : ∀ {σ : Type} (s : Semaphore σ) (w w' : World σ), s.status w = .ok word w' →
    s.Finds channel state w w'

namespace Word

/-- All ways to read a word agree on the state of a channel. -/
theorem decodes_state (word : Word) {channel : Nat} (h : channel < channelCount) :
    word.Decodes channel (word.state channel) where
  chip s hs := by rw [s.state_eq_ok channel h, hs]
  semaphore _ _ _ hstatus := ⟨Semaphore.state?_of_status hstatus h,
    Semaphore.inState_of_status hstatus h .free, Semaphore.inState_of_status hstatus h .signalled,
    Semaphore.inState_of_status hstatus h .acknowledged⟩

/-- Packing the states of a word again loses the bits that belong to no channel. -/
theorem packed_state (word : Word) :
    packed (fun channel => word.state channel) = word &&& 0x00ffffff#32 := by
  have hlow : ∀ channel : Fin channelCount, field 0x00ffffff#32 channel = 0b11#2 := by decide
  have hspare : 0x00ffffff#32 &&& spareBits = 0#32 := by decide
  refine ((eq_packed_iff ?_).mpr fun channel => ?_).symm
  · rw [BitVec.and_assoc, hspare, BitVec.and_zero]
  · -- Every field lies in the bits that are kept.
    have hkept : field word channel &&& 0b11#2 = field word channel := BitVec.and_allOnes
    rw [state_eq_ofField, field_and, hlow, hkept, ← state_eq_ofField]

end Word

/-- Packing is exact. The packing of twelve states is the one word without spare
    bits in which everything that reads it finds these states; every word is
    read in the same states by everything that reads it; and the packing of the
    states of a word is the word without its spare bits. -/
theorem packing_exact :
    (∀ states : Fin channelCount → ChannelState,
      packed states &&& spareBits = 0#32 ∧
      (∀ channel : Fin channelCount, (packed states).Decodes channel (states channel)) ∧
      ∀ word : Word, word &&& spareBits = 0#32 →
        (∀ channel : Fin channelCount, word.state channel = states channel) →
          word = packed states) ∧
    ∀ word : Word,
      (∀ channel < channelCount, word.Decodes channel (word.state channel)) ∧
      packed (fun channel => word.state channel) = word &&& 0x00ffffff#32 := by
  refine ⟨fun states => ⟨Word.packed_and_spareBits states, fun channel => ?_,
    fun word hspare hstates => (Word.eq_packed_iff hspare).mpr hstates⟩,
    fun word => ⟨fun channel => word.decodes_state, word.packed_state⟩⟩
  have hdecodes := (packed states).decodes_state channel.isLt
  rwa [Word.state_packed] at hdecodes

end BpmpMailbox
