import BpmpMailbox.Proofs.Effects.Connect
import BpmpMailbox.Proofs.Effects.Firmware
import BpmpMailbox.Proofs.Effects.Mailbox

/-!
# What a change of one channel leaves alone

A channel has two bits of the semaphore word and one area of memory. An
operation on it may change these, and may ring a doorbell; everything else on
the chip stays. `ChangedOn` is that relation between the chip before and the
chip after, with the place of the area as a parameter, so that it can be used
whether or not the areas of different channels overlap.

The relation is reflexive and transitive, and each elementary change is in it:
bytes stored inside the area, bits set or cleared inside the field, a doorbell
rung. The longer changes are put together from these, and no proof about an
operation looks at the word or the memory as a whole.

## Main definitions

* `Soc.ChangedOn`: Nothing has changed outside one channel.

## Theorems

* `Soc.ChangedOn.refl`, `Soc.ChangedOn.trans`: Doing nothing is such a change, and so are two in a
  row.
* `Soc.ChangedOn.load_eq`: Bytes outside the area are as they were.
* `Soc.changedOn_stored`, `Soc.changedOn_setBits`, `Soc.changedOn_clearBits`, `Soc.changedOn_rung`:
  The elementary changes.
* `Soc.changedOn_sent`, `Soc.changedOn_responded`, `Soc.changedOn_written`, `Soc.changedOn_posted`:
  The longer ones.
-/

namespace BpmpMailbox

namespace Word

/-- Bits inside the field of one channel are zero in every other field. -/
theorem field_eq_zero_of_inside {v : Word} {owner channel : Fin channelCount}
    (h : v &&& ~~~fieldMask owner = 0#32) (hne : channel ≠ owner) : field v channel = 0#2 := by
  have hfield : field (v &&& ~~~fieldMask owner) channel = field v channel := by
    -- In the field of another channel the mask is zero, so its complement keeps everything.
    rw [field_and, field_not _ channel channel.isLt, field_fieldMask, if_neg hne]
    generalize field v channel = f
    revert f
    decide
  have hzero : ∀ channel : Fin channelCount, field 0#32 channel = 0#2 := by decide
  rw [← hfield, h, hzero]

/-- Bits inside the field of a channel are none of the spare bits. -/
theorem and_spareBits_of_inside {v : Word} {owner : Fin channelCount}
    (h : v &&& ~~~fieldMask owner = 0#32) : v &&& spareBits = 0#32 := by
  have hmask : ∀ owner : Fin channelCount, ~~~fieldMask owner &&& spareBits = spareBits := by decide
  rw [← hmask owner, ← BitVec.and_assoc, h, BitVec.zero_and]

end Word

namespace Soc

/-- Nothing has changed outside the field of the channel and the message at
    the place, the doorbells rung apart. -/
structure ChangedOn (channel : Fin channelCount) (place : Nat) (s t : Soc) : Prop where
  state : ∀ other : Fin channelCount, other ≠ channel →
    Word.state t.word other = Word.state s.word other
  spare : t.word &&& spareBits = s.word &&& spareBits
  byte : ∀ i, i < place ∨ place + messageSize ≤ i → t.dram.bytes[i]? = s.dram.bytes[i]?
  rest : { t with word := s.word, dram := s.dram, rings := s.rings } = s

namespace ChangedOn

variable {channel : Fin channelCount} {place : Nat} {s t u : Soc}

theorem refl (channel : Fin channelCount) (place : Nat) (s : Soc) : ChangedOn channel place s s :=
  ⟨fun _ _ => rfl, rfl, fun _ _ => rfl, rfl⟩

theorem trans (hst : ChangedOn channel place s t) (htu : ChangedOn channel place t u) :
    ChangedOn channel place s u where
  state other hne := (htu.state other hne).trans (hst.state other hne)
  spare := htu.spare.trans hst.spare
  byte i hi := (htu.byte i hi).trans (hst.byte i hi)
  rest := (congrArg (fun x : Soc => { x with word := s.word, dram := s.dram, rings := s.rings })
    htu.rest).trans hst.rest

theorem load_eq (h : ChangedOn channel place s t) {start count : Nat}
    (hout : start + count ≤ place ∨ place + messageSize ≤ start) :
    t.dram.load start count = s.dram.load start count :=
  -- Each byte loaded lies outside the message, so it is as it was.
  Memory.load_congr fun i hle hlt => h.byte i (by omega)

end ChangedOn

section Elementary

variable (s : Soc) (channel : Fin channelCount) (place : Nat)

theorem changedOn_stored {start : Nat} {data : List Byte} (hle : place ≤ start)
    (hin : start + data.length ≤ place + messageSize) :
    ChangedOn channel place s (s.stored start data) := by
  refine ⟨fun _ _ => rfl, rfl, fun i hi => ?_, rfl⟩
  rw [stored, Memory.getElem?_store, if_neg (by omega)]

theorem changedOn_setBits {bits : Word} (h : bits &&& ~~~fieldMask channel = 0#32) :
    ChangedOn channel place s (s.setBits bits) := by
  refine ⟨fun other hne => ?_, ?_, fun _ _ => rfl, rfl⟩
  · exact Word.state_or_of_field_eq_zero _ _ _ (Word.field_eq_zero_of_inside h hne)
  · rw [setBits, BitVec.and_or_distrib_right, Word.and_spareBits_of_inside h, BitVec.or_zero]

theorem changedOn_clearBits {bits : Word} (h : bits &&& ~~~fieldMask channel = 0#32) :
    ChangedOn channel place s (s.clearBits bits) := by
  refine ⟨fun other hne => ?_, ?_, fun _ _ => rfl, rfl⟩
  · exact Word.state_clear_of_field_eq_zero _ _ _ (Word.field_eq_zero_of_inside h hne)
  · -- Clearing bits that are none of the spare ones keeps those.
    have hspare : ~~~bits &&& spareBits = spareBits := by
      have hand := Word.and_spareBits_of_inside h
      apply BitVec.eq_of_getLsbD_eq
      intro i hi
      have hbit := congrArg (fun v : Word => v.getLsbD i) hand
      simp only [BitVec.getLsbD_and, BitVec.getLsbD_not, BitVec.getLsbD_zero, hi, decide_true,
        Bool.true_and] at hbit ⊢
      cases hs : spareBits.getLsbD i
      · rw [Bool.and_false]
      · rw [hs, Bool.and_true] at hbit
        rw [hbit, Bool.not_false, Bool.and_true]
    rw [clearBits, BitVec.and_assoc, hspare]

theorem changedOn_rung (line : Word) : ChangedOn channel place s (s.rung line) :=
  ⟨fun _ _ => rfl, rfl, fun _ _ => rfl, rfl⟩

end Elementary

section Composed

variable (s : Soc) (channel : Fin channelCount) (place : Nat) (code : Code) (flags : MessageFlags)
  {data : List Byte} (line : Word)

theorem changedOn_acknowledged : ChangedOn channel place s (s.acknowledged channel flags) := by
  -- The acknowledgement and the release that may follow both stay inside the field.
  have hset := changedOn_setBits s channel place (Word.bits_inside .acknowledged channel)
  unfold acknowledged
  by_cases hf : flags.contains .doAck = true
  · rw [if_pos hf]
    exact hset
  · rw [if_neg hf]
    exact hset.trans (changedOn_clearBits _ channel place (Word.release_inside channel))

theorem changedOn_code :
    ChangedOn channel place s (s.stored (place + codeOffset) (Word.toBytes code)) :=
  changedOn_stored s channel place (Nat.le_add_right _ _)
    (by simp only [Word.length_toBytes, codeOffset, messageSize]; omega)

theorem changedOn_flags :
    ChangedOn channel place s (s.stored (place + flagsOffset) (Word.toBytes flags.bits)) :=
  changedOn_stored s channel place (Nat.le_add_right _ _)
    (by simp only [Word.length_toBytes, flagsOffset, messageSize]; omega)

theorem changedOn_payload (hlen : data.length ≤ payloadSize) :
    ChangedOn channel place s (s.stored (place + payloadOffset) data) :=
  changedOn_stored s channel place (Nat.le_add_right _ _)
    (by simp only [payloadOffset, messageSize, payloadSize] at hlen ⊢; omega)

theorem changedOn_sent (hlen : data.length ≤ payloadSize) :
    ChangedOn channel place s (s.sent channel place code flags data line) := by
  -- In the order of the request: the payload, the code, the flags, the field, the doorbell.
  have hpayload := changedOn_payload s channel place hlen
  have hcode := hpayload.trans (changedOn_code _ channel place code)
  have hflags := hcode.trans (changedOn_flags _ channel place flags)
  have hsignal := hflags.trans (changedOn_clearBits _ channel place (BitVec.and_not_self _))
  exact hsignal.trans (changedOn_rung _ channel place line)

theorem changedOn_responded (hlen : data.length ≤ payloadSize) :
    ChangedOn channel place s (s.responded channel place code data flags line) := by
  have hanswered : ChangedOn channel place s (s.answered place code data) :=
    (changedOn_payload s channel place hlen).trans (changedOn_code _ channel place code)
  have hacknowledged := hanswered.trans (changedOn_acknowledged _ channel place flags)
  unfold responded
  by_cases hring : flags.contains .ringDoorbell = true
  · rw [if_pos hring]
    exact hacknowledged.trans (changedOn_rung _ channel place line)
  · rw [if_neg hring]
    exact hacknowledged

theorem changedOn_written (hlen : data.length ≤ payloadSize) :
    ChangedOn channel place s (s.written place code flags data) := by
  have hcode := changedOn_code s channel place code
  exact (hcode.trans (changedOn_flags _ channel place flags)).trans
    (changedOn_payload _ channel place hlen)

theorem changedOn_posted (hlen : data.length ≤ payloadSize) :
    ChangedOn channel place s (s.posted channel place code flags data) :=
  (changedOn_written s channel place code flags hlen).trans
    (changedOn_clearBits _ channel place (BitVec.and_not_self _))

end Composed

end Soc

end BpmpMailbox
