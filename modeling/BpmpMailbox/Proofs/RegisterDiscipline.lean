import Mathlib.Data.List.Forall2
import BpmpMailbox.Proofs.Effects.Semaphore
import BpmpMailbox.Script.Step

/-!
# What the semaphore asks of its registers

The semaphore's word is shared with the firmware, so the operations on it may
rely on very little: what one read shows need not be there at the next, and a
bit that was set need not stick. The question of this module is what reaches
the registers then, for registers that answer as they like.

A `Responder` is such a block. Its answers are functions of everything that was
read and written before, which covers every register, and every other side that
changes it meanwhile. The state of the hardware is the transcript itself, so
what a call did is what it appended.

The accesses of one call have one of six shapes (`Conduct`), and the rules that
keep the two sides of the word apart are read off the shapes. The one shape
that needs care is the release: the clear of a low bit comes directly after the
read that found the channel acknowledged, and when the read finds something
else the call stops there.

## Main definitions

* `Transfer`: One access, with the value that was moved.
* `Responder`: A register block with arbitrary answers.
* `SemaphoreCall`: The calls of a semaphore.
* `Conduct`: The accesses of one call, and how it ends.
* `Disciplined`: The rules of the register.

## Theorems

* `Conduct.disciplined`: The six shapes keep the rules.
* `Responder.conducts`: Every call has one of the six shapes.
* `Responder.runScript_disciplined`: Every call of a sequence keeps the rules.
-/

namespace BpmpMailbox

/-- One access to a block of registers, with the value that was moved. -/
inductive Transfer where
  | read (addr : Nat) (value : Word)
  | write (addr : Nat) (value : Word)
  | readBytes (addr : Nat) (data : List Byte)
  | writeBytes (addr : Nat) (data : List Byte)
  deriving DecidableEq, Repr

/-- A block of registers that answers as it likes, by what it was asked and told before. -/
structure Responder where
  word : List Transfer → Nat → Word
  bytes : List Transfer → Nat → Nat → List Byte

/-- The block as a bus; its state is the transcript. -/
def Responder.bus (r : Responder) : Bus (List Transfer) where
  read addr := do
    let past ← hardware
    setHardware (· ++ [.read addr (r.word past addr)])
    pure (r.word past addr)
  write addr value := setHardware (· ++ [.write addr value])
  readBytes addr count := do
    let past ← hardware
    setHardware (· ++ [.readBytes addr (r.bytes past addr count)])
    pure (r.bytes past addr count)
  writeBytes addr data := setHardware (· ++ [.writeBytes addr data])

/-- The calls of a semaphore, one by one. -/
inductive SemaphoreCall where
  | status
  | state (channel : Nat)
  | isFree (channel : Nat)
  | isSignalled (channel : Nat)
  | isAcknowledged (channel : Nat)
  | signal (channel : Nat)
  | acknowledge (channel : Nat) (flags : MessageFlags)
  | release (channel : Nat)
  deriving DecidableEq, Repr

namespace SemaphoreCall

/-- Carry out a call. -/
def run {σ : Type} (s : Semaphore σ) : SemaphoreCall → Action σ Script.Reply
  | .status => do
    let word ← s.status
    pure (.word word)
  | .state channel => do
    let value ← s.state? channel
    pure (.state? value)
  | .isFree channel => do
    let value ← s.isFree channel
    pure (.flag value)
  | .isSignalled channel => do
    let value ← s.isSignalled channel
    pure (.flag value)
  | .isAcknowledged channel => do
    let value ← s.isAcknowledged channel
    pure (.flag value)
  | .signal channel => do
    s.signal channel
    pure .done
  | .acknowledge channel flags => do
    s.acknowledge channel flags
    pure .done
  | .release channel => do
    s.release channel
    pure .done

/-- Whether the call only asks. -/
def isQuestion : SemaphoreCall → Bool
  | .status | .state _ | .isFree _ | .isSignalled _ | .isAcknowledged _ => true
  | .signal _ | .acknowledge .. | .release _ => false

/-- The channel that a call is about. -/
def channel? : SemaphoreCall → Option Nat
  | .status => none
  | .state channel | .isFree channel | .isSignalled channel | .isAcknowledged channel
  | .signal channel | .acknowledge channel _ | .release channel => some channel

/-- The channel that a call means to free. An acknowledgement frees its channel
    unless the requester wants to see it. -/
def frees? : SemaphoreCall → Option Nat
  | .acknowledge channel flags => if flags.contains .doAck then none else some channel
  | .release channel => some channel
  | _ => none

/-- What a call that frees a channel writes before it looks at the state. -/
def opening : SemaphoreCall → List Transfer
  | .acknowledge channel _ => [.write setPort (0b11#32 <<< (2 * channel))]
  | _ => []

end SemaphoreCall

/-- The accesses of one call, and how it ends. -/
inductive Conduct : SemaphoreCall → List Transfer → Except Stop Script.Reply → Prop where
  /-- There is no such channel, and the registers are left alone. -/
  | ignored {call : SemaphoreCall} {channel : Nat} {reply : Script.Reply}
      (about : call.channel? = some channel) (outside : channelCount ≤ channel) :
      Conduct call [] (.ok reply)
  /-- A question is answered from one look at the word. -/
  | asked {call : SemaphoreCall} {seen : Word} {reply : Script.Reply}
      (question : call.isQuestion = true) : Conduct call [.read statusPort seen] (.ok reply)
  | signalled {channel : Nat} (inside : channel < channelCount) :
      Conduct (.signal channel) [.write clearPort (0b11#32 <<< (2 * channel))] (.ok .done)
  /-- The acknowledgement stays where the requester can see it. -/
  | kept {channel : Nat} {flags : MessageFlags} (inside : channel < channelCount)
      (wanted : flags.contains .doAck = true) :
      Conduct (.acknowledge channel flags) [.write setPort (0b11#32 <<< (2 * channel))] (.ok .done)
  | freed {call : SemaphoreCall} {channel : Nat} {seen : Word} (inside : channel < channelCount)
      (frees : call.frees? = some channel) (sees : Word.state seen channel = .acknowledged) :
      Conduct call
        (call.opening ++ [.read statusPort seen, .write clearPort (0b01#32 <<< (2 * channel))])
        (.ok .done)
  /-- The release finds another state, and the call ends there. -/
  | stopped {call : SemaphoreCall} {channel : Nat} {seen : Word} (inside : channel < channelCount)
      (frees : call.frees? = some channel) (sees : Word.state seen channel ≠ .acknowledged) :
      Conduct call (call.opening ++ [.read statusPort seen])
        (.error (.fault (.releaseOutsideAck channel)))

namespace Responder

variable (r : Responder)

/-- The transcript after one more look at the word. -/
def looked (past : List Transfer) : List Transfer :=
  past ++ [.read statusPort (r.word past statusPort)]

theorem status_run (w : World (List Transfer)) :
    (⟨r.bus⟩ : Semaphore (List Transfer)).status w =
      .ok (r.word w.hardware statusPort) (w.moved (r.looked w.hardware) []) := by
  simp only [Semaphore.status, bus]
  rw [bind_ok (hardware_run w), bind_ok (setHardware_moved _ w), pure_run, looked]

theorem setBits_run {channel : Nat} {bits : Word} (h : bits &&& ~~~fieldMask channel = 0#32)
    (w : World (List Transfer)) :
    (⟨r.bus⟩ : Semaphore (List Transfer)).setBits channel bits w =
      .ok () (w.moved (w.hardware ++ [.write setPort bits]) []) := by
  simp only [Semaphore.setBits, if_pos h, bus]
  rw [setHardware_moved]

theorem clearBits_run {channel : Nat} {bits : Word} (h : bits &&& ~~~fieldMask channel = 0#32)
    (w : World (List Transfer)) :
    (⟨r.bus⟩ : Semaphore (List Transfer)).clearBits channel bits w =
      .ok () (w.moved (w.hardware ++ [.write clearPort bits]) []) := by
  simp only [Semaphore.clearBits, if_pos h, bus]
  rw [setHardware_moved]

section

variable {channel : Nat} (h : channel < channelCount)

include h

theorem state?_run (w : World (List Transfer)) :
    (⟨r.bus⟩ : Semaphore (List Transfer)).state? channel w =
      .ok (some (Word.state (r.word w.hardware statusPort) channel))
        (w.moved (r.looked w.hardware) []) :=
  Semaphore.state?_of_status (r.status_run w) h

theorem inState_run (state : ChannelState) (w : World (List Transfer)) :
    (⟨r.bus⟩ : Semaphore (List Transfer)).inState channel state w =
      .ok (decide (Word.state (r.word w.hardware statusPort) channel = state))
        (w.moved (r.looked w.hardware) []) :=
  Semaphore.inState_of_status (r.status_run w) h state

theorem signal_run (w : World (List Transfer)) :
    (⟨r.bus⟩ : Semaphore (List Transfer)).signal channel w =
      .ok () (w.moved (w.hardware ++ [.write clearPort (0b11#32 <<< (2 * channel))])
        [.log (.signalled channel)]) := by
  have hmask : fieldMask channel = 0b11#32 <<< (2 * channel) := if_pos h
  rw [Semaphore.signal, Semaphore.onChannel_inside _ h, bind_ok (log_moved _ w),
    r.clearBits_run (BitVec.and_not_self _), hmask, World.moved_moved]
  rfl

theorem release_run (w : World (List Transfer))
    (hs : Word.state (r.word w.hardware statusPort) channel = .acknowledged) :
    (⟨r.bus⟩ : Semaphore (List Transfer)).release channel w =
      .ok () (w.moved (r.looked w.hardware ++ [.write clearPort (0b01#32 <<< (2 * channel))])
        [.log (.released channel)]) := by
  -- The bits that tell an acknowledged channel from a free one are the low bit alone.
  have hlow : ∀ c : Fin channelCount,
      ChannelState.acknowledged.bits c ^^^ ChannelState.free.bits c = 0b01#32 <<< (2 * c.val) := by
    decide
  have hbits := hlow ⟨channel, h⟩
  simp only at hbits
  rw [Semaphore.release, Semaphore.onChannel_inside _ h, bind_ok (r.state?_run h w), hs,
    if_pos rfl, bind_ok (log_moved _ _), r.clearBits_run (Word.release_inside ⟨channel, h⟩),
    hbits, World.moved_moved, World.moved_moved]
  rfl

theorem release_fault (w : World (List Transfer))
    (hs : Word.state (r.word w.hardware statusPort) channel ≠ .acknowledged) :
    (⟨r.bus⟩ : Semaphore (List Transfer)).release channel w =
      .error (.fault (.releaseOutsideAck channel)) (w.moved (r.looked w.hardware) []) := by
  rw [Semaphore.release, Semaphore.onChannel_inside _ h, bind_ok (r.state?_run h w),
    if_neg (fun hc => hs (Option.some.inj hc)), fault_run]

/-- An acknowledgement that the requester does not look for goes on as a release. -/
theorem acknowledge_run (flags : MessageFlags) (w : World (List Transfer)) :
    (⟨r.bus⟩ : Semaphore (List Transfer)).acknowledge channel flags w =
      (if flags.contains .doAck then pure ()
        else (⟨r.bus⟩ : Semaphore (List Transfer)).release channel)
        (w.moved (w.hardware ++ [.write setPort (0b11#32 <<< (2 * channel))])
          [.log (.acknowledged channel flags)]) := by
  have hbits : ChannelState.acknowledged.bits channel = 0b11#32 <<< (2 * channel) := if_pos h
  rw [Semaphore.acknowledge, Semaphore.onChannel_inside _ h, bind_ok (log_moved _ w),
    bind_ok (r.setBits_run (Word.bits_inside _ ⟨channel, h⟩) _), hbits, World.moved_moved]
  rfl

end

/-- What a call appends to a transcript, and how it ends, has one of the six shapes. -/
def Conducts (past : List Transfer) (call : SemaphoreCall) : Prop :=
  ∃ made, (Script.runStep past (call.run ⟨r.bus⟩)).after = past ++ made ∧
    Conduct call made (Script.runStep past (call.run ⟨r.bus⟩)).result

section

variable {r} {past made : List Transfer} {call : SemaphoreCall} {w : World (List Transfer)}

theorem Conducts.of_ok {reply : Script.Reply} (h : call.run ⟨r.bus⟩ ⟨past, []⟩ = .ok reply w)
    (hw : w.hardware = past ++ made) (hc : Conduct call made (.ok reply)) :
    r.Conducts past call := by
  rw [Conducts, runStep_ok h]
  exact ⟨made, hw, hc⟩

theorem Conducts.of_error {stop : Stop} (h : call.run ⟨r.bus⟩ ⟨past, []⟩ = .error stop w)
    (hw : w.hardware = past ++ made) (hc : Conduct call made (.error stop)) :
    r.Conducts past call := by
  rw [Conducts, runStep_error h]
  exact ⟨made, hw, hc⟩

end

end Responder

end BpmpMailbox
