import BpmpMailbox.Proofs.Effects.Region
import BpmpMailbox.Proofs.PackedWord

/-!
# The semaphore on the chip

What the semaphore's operations do when its registers are those of the chip.
The word then is a plain word: a set adds bits and a clear removes them, and a
read shows the result at once. So the state that a release looks for is the
state that is there, and an acknowledgement that is released in the same call
never finds anything else than what it has just set.

Every mask that these operations write lies inside the field of one channel,
so neither of the two assertions about masks can fail.

## Main definitions

* `releaseBits`: The bits that a release clears.
* `Soc.acknowledged`: The chip after an acknowledgement.
* `Semaphore.acknowledgeEvents`: What an acknowledgement leaves in the journal.

## Theorems

* `Semaphore.state?_of_status`, `Semaphore.inState_of_status`: What a look at the word tells, on any
  registers.
* `Semaphore.status_run`, `Semaphore.state?_run`, `Semaphore.inState_run`: The word and the state
  of a channel.
* `Semaphore.signal_run`: A channel is signalled by clearing its field.
* `Semaphore.release_run`, `Semaphore.release_fault`: A release succeeds exactly when the channel
  is acknowledged.
* `Semaphore.acknowledge_run`: An acknowledgement, freed at once unless the requester wants to see
  it.
* `Semaphore.state?_outside`, `Semaphore.inState_outside`: Past the last channel the registers are
  not asked.
* `Semaphore.onChannel_outside`: A change there is only a warning.
-/

namespace BpmpMailbox

/-- The bits that turn an acknowledged channel into a free one. -/
abbrev releaseBits (channel : Nat) : Word :=
  ChannelState.acknowledged.bits channel ^^^ ChannelState.free.bits channel

/-- The chip after a channel was acknowledged for a message with these flags. -/
def Soc.acknowledged (s : Soc) (channel : Nat) (flags : MessageFlags) : Soc :=
  if flags.contains .doAck then s.setBits (ChannelState.acknowledged.bits channel)
  else (s.setBits (ChannelState.acknowledged.bits channel)).clearBits (releaseBits channel)

namespace Semaphore

/-- What an acknowledgement leaves in the journal. -/
def acknowledgeEvents (region : Region) (channel : Nat) (flags : MessageFlags) : List Event :=
  [.log (.acknowledged channel flags),
    .call (.access region (.write setPort (ChannelState.acknowledged.bits channel)))] ++
  if flags.contains .doAck then []
  else [.call (.access region (.read statusPort)), .log (.released channel),
    .call (.access region (.write clearPort (releaseBits channel)))]

theorem onChannel_inside {σ : Type} (change : StateChange) {channel : Nat}
    (h : channel < channelCount) (act : Action σ Unit) : onChannel change channel act = act := by
  rw [onChannel, if_pos h]

theorem onChannel_outside {σ : Type} (change : StateChange) {channel : Nat}
    (h : channelCount ≤ channel) (act : Action σ Unit) (w : World σ) :
    onChannel change channel act w =
      .ok () (w.moved w.hardware [.log (.changeIgnored change channel)]) := by
  rw [onChannel, if_neg (Nat.not_lt.mpr h), log_moved]

section

variable {σ : Type} (s : Semaphore σ) {channel : Nat} (h : channelCount ≤ channel) (w : World σ)

include h

theorem field?_outside : s.field? channel w = .ok none w := by
  rw [field?, if_neg (Nat.not_lt.mpr h), pure_run]

theorem state?_outside : s.state? channel w = .ok none w := by
  unfold state?
  rw [bind_ok (s.field?_outside h w), pure_run, Option.map_none]

/-- No field is the field of no state, although the bits of a signalled channel
    are zero as well. -/
theorem inState_outside (state : ChannelState) : s.inState channel state w = .ok false w := by
  rw [inState, bind_ok (s.field?_outside h w), pure_run]
  rfl

end

section

variable {σ : Type} {s : Semaphore σ} {word : Word} {w w' : World σ}
  (hs : s.status w = .ok word w') {channel : Nat} (h : channel < channelCount)

include hs h

/-- What a question about a channel depends on is one look at the word. -/
theorem field?_of_status : s.field? channel w = .ok (some (word &&& fieldMask channel)) w' := by
  rw [field?, if_pos h, bind_ok hs, pure_run]

theorem state?_of_status : s.state? channel w = .ok (some (Word.state word channel)) w' := by
  unfold state?
  -- The word is masked before it is shifted, which gives the same state.
  rw [bind_ok (field?_of_status hs h), pure_run, Option.map_some,
    Word.state_and_fieldMask _ ⟨channel, h⟩]

theorem inState_of_status (state : ChannelState) :
    s.inState channel state w = .ok (decide (Word.state word channel = state)) w' := by
  -- Comparing the masked word with the state's bits is looking at the state.
  have hstate : (some (word &&& fieldMask channel) == some (state.bits channel)) =
      decide (Word.state word channel = state) := by
    rw [Bool.eq_iff_iff, beq_iff_eq, Option.some.injEq, decide_eq_true_iff]
    exact Word.and_fieldMask_eq_bits_iff word state ⟨channel, h⟩
  rw [inState, bind_ok (field?_of_status hs h), pure_run, hstate]

end

section

variable {region : Region} (hr : region.kind = .semaphore)

include hr

theorem status_run (w : World Soc) :
    (⟨Soc.platform.bus region⟩ : Semaphore Soc).status w =
      .ok w.hardware.word
        (w.moved w.hardware [.call (.access region (.read statusPort))]) :=
  Region.status_read_run hr w

theorem state?_run {channel : Nat} (h : channel < channelCount) (w : World Soc) :
    (⟨Soc.platform.bus region⟩ : Semaphore Soc).state? channel w =
      .ok (some (Word.state w.hardware.word channel))
        (w.moved w.hardware [.call (.access region (.read statusPort))]) :=
  state?_of_status (status_run hr w) h

theorem inState_run {channel : Nat} (h : channel < channelCount) (state : ChannelState)
    (w : World Soc) :
    (⟨Soc.platform.bus region⟩ : Semaphore Soc).inState channel state w =
      .ok (decide (Word.state w.hardware.word channel = state))
        (w.moved w.hardware [.call (.access region (.read statusPort))]) :=
  inState_of_status (status_run hr w) h state

theorem setBits_run {channel : Nat} {bits : Word} (h : bits &&& ~~~fieldMask channel = 0#32)
    (w : World Soc) :
    (⟨Soc.platform.bus region⟩ : Semaphore Soc).setBits channel bits w =
      .ok () (w.moved (w.hardware.setBits bits)
        [.call (.access region (.write setPort bits))]) := by
  rw [setBits, if_pos h, Region.set_write_run hr]

theorem clearBits_run {channel : Nat} {bits : Word} (h : bits &&& ~~~fieldMask channel = 0#32)
    (w : World Soc) :
    (⟨Soc.platform.bus region⟩ : Semaphore Soc).clearBits channel bits w =
      .ok () (w.moved (w.hardware.clearBits bits)
        [.call (.access region (.write clearPort bits))]) := by
  rw [clearBits, if_pos h, Region.clear_write_run hr]

theorem signal_run {channel : Nat} (h : channel < channelCount) (w : World Soc) :
    (⟨Soc.platform.bus region⟩ : Semaphore Soc).signal channel w =
      .ok () (w.moved (w.hardware.clearBits (fieldMask channel))
        [.log (.signalled channel),
          .call (.access region (.write clearPort (fieldMask channel)))]) := by
  rw [signal, onChannel_inside _ h, bind_ok (log_moved _ w),
    clearBits_run hr (BitVec.and_not_self _), World.moved_moved, World.moved_hardware]
  rfl

theorem release_run {channel : Nat} (h : channel < channelCount) (w : World Soc)
    (hs : Word.state w.hardware.word channel = .acknowledged) :
    (⟨Soc.platform.bus region⟩ : Semaphore Soc).release channel w =
      .ok () (w.moved (w.hardware.clearBits (releaseBits channel))
        [.call (.access region (.read statusPort)), .log (.released channel),
          .call (.access region (.write clearPort (releaseBits channel)))]) := by
  -- The state is read first, and then the bits cleared that tell acknowledged from free.
  rw [release, onChannel_inside _ h, bind_ok (state?_run hr h w), hs, if_pos rfl,
    bind_ok (log_moved _ _), clearBits_run hr (Word.release_inside ⟨channel, h⟩),
    World.moved_moved, World.moved_moved]
  rfl

/-- A release of a channel that is not acknowledged stops before it writes. -/
theorem release_fault {channel : Nat} (h : channel < channelCount) (w : World Soc)
    (hs : Word.state w.hardware.word channel ≠ .acknowledged) :
    (⟨Soc.platform.bus region⟩ : Semaphore Soc).release channel w =
      .error (.fault (.releaseOutsideAck channel))
        (w.moved w.hardware [.call (.access region (.read statusPort))]) := by
  rw [release, onChannel_inside _ h, bind_ok (state?_run hr h w),
    if_neg (fun hc => hs (Option.some.inj hc)), fault_run]

/-- The requester wants to see the acknowledgement, so it stays. -/
theorem acknowledge_run_kept {channel : Nat} (h : channel < channelCount) {flags : MessageFlags}
    (hf : flags.contains .doAck = true) (w : World Soc) :
    (⟨Soc.platform.bus region⟩ : Semaphore Soc).acknowledge channel flags w =
      .ok () (w.moved (w.hardware.setBits (ChannelState.acknowledged.bits channel))
        [.log (.acknowledged channel flags),
          .call (.access region (.write setPort (ChannelState.acknowledged.bits channel)))]) := by
  rw [acknowledge, onChannel_inside _ h, bind_ok (log_moved _ w),
    bind_ok (setBits_run hr (Word.bits_inside _ ⟨channel, h⟩) _), if_pos hf, pure_run,
    World.moved_moved]
  rfl

/-- The requester does not look for the acknowledgement, so the channel is
    freed at once. The release finds the state that the same call has set. -/
theorem acknowledge_run_freed {channel : Nat} (h : channel < channelCount) {flags : MessageFlags}
    (hf : flags.contains .doAck = false) (w : World Soc) :
    (⟨Soc.platform.bus region⟩ : Semaphore Soc).acknowledge channel flags w =
      .ok () (w.moved ((w.hardware.setBits (ChannelState.acknowledged.bits channel)).clearBits
          (releaseBits channel))
        [.log (.acknowledged channel flags),
          .call (.access region (.write setPort (ChannelState.acknowledged.bits channel))),
          .call (.access region (.read statusPort)), .log (.released channel),
          .call (.access region (.write clearPort (releaseBits channel)))]) := by
  -- The release looks at the state again, and finds it acknowledged by now.
  have hset : Word.state (w.hardware.setBits (ChannelState.acknowledged.bits channel)).word
      channel = .acknowledged :=
    Word.state_or_acknowledged w.hardware.word ⟨channel, h⟩
  rw [acknowledge, onChannel_inside _ h, bind_ok (log_moved _ w),
    bind_ok (setBits_run hr (Word.bits_inside _ ⟨channel, h⟩) _), hf, if_neg Bool.false_ne_true,
    World.moved_moved, World.moved_hardware,
    release_run hr h (w.moved (w.hardware.setBits (ChannelState.acknowledged.bits channel)) _) hset,
    World.moved_moved]
  rfl

/-- What an acknowledgement does, whether or not the requester looks for it. -/
theorem acknowledge_run {channel : Nat} (h : channel < channelCount) (flags : MessageFlags)
    (w : World Soc) :
    (⟨Soc.platform.bus region⟩ : Semaphore Soc).acknowledge channel flags w =
      .ok () (w.moved (w.hardware.acknowledged channel flags)
        (acknowledgeEvents region channel flags)) := by
  cases hf : flags.contains .doAck with
  | true =>
      rw [acknowledge_run_kept hr h hf, Soc.acknowledged, if_pos hf, acknowledgeEvents, if_pos hf]
      rfl
  | false =>
      rw [acknowledge_run_freed hr h hf, Soc.acknowledged, hf, acknowledgeEvents, hf]
      rfl

end

end Semaphore

end BpmpMailbox
