import BpmpMailbox.Proofs.WindowGuards
import BpmpMailbox.Proofs.RegisterDiscipline

/-!
# Arithmetic in its widths

The semaphore finds a channel's field by shifting, and a window finds its bytes
by adding, and on the machine each of these operations has a width that its
result may not fit. The definitions of both are in plain numbers and have no
faults for that. So they are written a second time here, with every product,
sum, difference and distance checked, and the two are proved to be the same
action. Nothing is assumed of the channel, of the registers behind the
semaphore or of the bytes that are asked for.

Two things make it so. An index is compared with the number of channels before
anything is computed from it, and a window that lies inside the memory keeps
every place that it lets through far below the top of the range of addresses.

## Main definitions

* `Checked.shift`, `Checked.inField`: The distance of a field, and a code moved there.
* `Checked.run`: The calls of a semaphore, with their shifts checked.
* `Checked.regionBus`: A region as a bus, with its sums checked.
* `Checked.ofIndex?`: The channel at an index, with its difference checked.

## Theorems

* `Checked.inField_mask`, `Checked.inField_code`: The field and the bits of a state, for every
  index.
* `Checked.run_eq`: The calls of a semaphore are those without the checks.
* `Checked.regionBus_eq`: So is every access to a window inside the memory.
* `Checked.ofIndex?_eq`: So is the channel at an index.
-/

namespace BpmpMailbox

namespace Checked

/-- How far a channel's field lies from the low end of the word: the index
    doubled as a size, of which a distance keeps the low half. -/
def shift (channel : Nat) : Except Fault Nat := do
  let distance ← mulSize channel 2
  pure (distance % 0x100000000)

/-- A code moved to the field of a channel, zero past the last channel. -/
def inField (code : Word) (channel : Nat) : Except Fault Word :=
  if channel < channelCount then do
    let distance ← shift channel
    shiftLeftWord code distance
  else pure 0#32

section

variable {σ : Type} (s : Semaphore σ) (channel : Nat)

/-- The field of a channel in its place, nothing past the last channel. -/
def field? : Action σ (Option Word) :=
  if channel < channelCount then do
    let word ← s.status
    let mask ← Action.ofExcept (inField 0b11#32 channel)
    pure (some (word &&& mask))
  else pure none

/-- The state of a channel, nothing past the last channel. -/
def state? : Action σ (Option ChannelState) := do
  match ← field? s channel with
  | some field => do
    let distance ← Action.ofExcept (shift channel)
    let code ← Action.ofExcept (shiftRightWord field distance)
    pure (some (.ofCode code))
  | none => pure none

/-- Whether a channel is in a given state. -/
def inState (state : ChannelState) : Action σ Bool := do
  let field ← field? s channel
  let bits ← Action.ofExcept (inField state.code channel)
  pure (field == some bits)

/-- Set bits inside the field of a channel. -/
def setBits (bits : Word) : Action σ Unit := do
  let mask ← Action.ofExcept (inField 0b11#32 channel)
  if bits &&& ~~~mask = 0#32 then s.registers.write setPort bits
  else fault (.setOutsideField channel)

/-- Clear bits inside the field of a channel. -/
def clearBits (bits : Word) : Action σ Unit := do
  let mask ← Action.ofExcept (inField 0b11#32 channel)
  if bits &&& ~~~mask = 0#32 then s.registers.write clearPort bits
  else fault (.clearOutsideField channel)

/-- Hand a channel to its slave by clearing its whole field. -/
def signal : Action σ Unit :=
  Semaphore.onChannel .signal channel do
    log (.signalled channel)
    let mask ← Action.ofExcept (inField 0b11#32 channel)
    clearBits s channel mask

/-- Free an acknowledged channel by clearing the low bit of its field. -/
def release : Action σ Unit :=
  Semaphore.onChannel .release channel do
    let state ← state? s channel
    if state = some .acknowledged then
      log (.released channel)
      let acknowledged ← Action.ofExcept (inField ChannelState.acknowledged.code channel)
      let free ← Action.ofExcept (inField ChannelState.free.code channel)
      clearBits s channel (acknowledged ^^^ free)
    else fault (.releaseOutsideAck channel)

/-- Acknowledge the response on a channel. -/
def acknowledge (flags : MessageFlags) : Action σ Unit :=
  Semaphore.onChannel .acknowledge channel do
    log (.acknowledged channel flags)
    let bits ← Action.ofExcept (inField ChannelState.acknowledged.code channel)
    setBits s channel bits
    if flags.contains .doAck then pure () else release s channel

end

/-- Carry out a call of a semaphore. -/
def run {σ : Type} (s : Semaphore σ) : SemaphoreCall → Action σ Script.Reply
  | .status => do
    let word ← s.status
    pure (.word word)
  | .state channel => do
    let value ← state? s channel
    pure (.state? value)
  | .isFree channel => do
    let value ← inState s channel .free
    pure (.flag value)
  | .isSignalled channel => do
    let value ← inState s channel .signalled
    pure (.flag value)
  | .isAcknowledged channel => do
    let value ← inState s channel .acknowledged
    pure (.flag value)
  | .signal channel => do
    signal s channel
    pure .done
  | .acknowledge channel flags => do
    acknowledge s channel flags
    pure .done
  | .release channel => do
    release s channel
    pure .done

theorem shift_eq {channel : Nat} (h : channel < channelCount) :
    shift channel = .ok (fieldShift channel) := by
  simp only [channelCount] at h
  have hmul : mulSize channel 2 = .ok (channel * 2) :=
    if_pos (by simp only [addressLimit]; omega)
  simp only [shift, hmul, bind, Except.bind, pure, Except.pure, fieldShift]
  rw [Nat.mod_eq_of_lt (by omega), Nat.mul_comm]

theorem shift_lt {channel : Nat} (h : channel < channelCount) : fieldShift channel < 32 := by
  simp only [channelCount, fieldShift] at h ⊢
  omega

theorem inField_eq (code : Word) (channel : Nat) :
    inField code channel =
      .ok (if channel < channelCount then code <<< fieldShift channel else 0#32) := by
  unfold inField
  by_cases h : channel < channelCount
  · rw [if_pos h, if_pos h, shift_eq h]
    exact if_pos (shift_lt h)
  · rw [if_neg h, if_neg h]
    rfl

theorem inField_mask (channel : Nat) : inField 0b11#32 channel = .ok (fieldMask channel) :=
  inField_eq 0b11#32 channel

theorem inField_code (state : ChannelState) (channel : Nat) :
    inField state.code channel = .ok (state.bits channel) :=
  inField_eq state.code channel

section

variable {σ : Type} (s : Semaphore σ) (channel : Nat)

theorem field?_eq : field? s channel = s.field? channel := by
  simp only [field?, Semaphore.field?, inField_mask, Action.ofExcept, pure_bind]

theorem state?_eq : state? s channel = s.state? channel := by
  unfold state? Semaphore.state?
  rw [field?_eq]
  by_cases h : channel < channelCount
  · simp only [Semaphore.field?, if_pos h, bind_assoc, pure_bind, shift_eq h, shiftRightWord,
      if_pos (shift_lt h), Action.ofExcept, Option.map_some]
  · simp only [Semaphore.field?, if_neg h, pure_bind, Option.map_none]

theorem inState_eq (state : ChannelState) : inState s channel state = s.inState channel state := by
  simp only [inState, Semaphore.inState, field?_eq, inField_code, Action.ofExcept, pure_bind]

theorem setBits_eq (bits : Word) : setBits s channel bits = s.setBits channel bits := by
  simp only [setBits, Semaphore.setBits, inField_mask, Action.ofExcept, pure_bind]

theorem clearBits_eq (bits : Word) : clearBits s channel bits = s.clearBits channel bits := by
  simp only [clearBits, Semaphore.clearBits, inField_mask, Action.ofExcept, pure_bind]

theorem signal_eq : signal s channel = s.signal channel := by
  simp only [signal, Semaphore.signal, inField_mask, Action.ofExcept, pure_bind, clearBits_eq]

theorem release_eq : release s channel = s.release channel := by
  simp only [release, Semaphore.release, state?_eq, inField_code, Action.ofExcept, pure_bind,
    clearBits_eq]

theorem acknowledge_eq (flags : MessageFlags) :
    acknowledge s channel flags = s.acknowledge channel flags := by
  simp only [acknowledge, Semaphore.acknowledge, inField_code, Action.ofExcept, pure_bind,
    setBits_eq, release_eq]

end

/-- No call of a semaphore has a shift or a product that does not fit, whatever
    registers it is laid over and whatever channel it names. -/
theorem run_eq {σ : Type} (s : Semaphore σ) (call : SemaphoreCall) : run s call = call.run s := by
  cases call with
  | status => rfl
  | state channel => simp only [run, SemaphoreCall.run, state?_eq]
  | isFree channel => simp only [run, SemaphoreCall.run, inState_eq, Semaphore.isFree]
  | isSignalled channel => simp only [run, SemaphoreCall.run, inState_eq, Semaphore.isSignalled]
  | isAcknowledged channel =>
      simp only [run, SemaphoreCall.run, inState_eq, Semaphore.isAcknowledged]
  | signal channel => simp only [run, SemaphoreCall.run, signal_eq]
  | acknowledge channel flags => simp only [run, SemaphoreCall.run, acknowledge_eq]
  | release channel => simp only [run, SemaphoreCall.run, release_eq]

/-- The channel at an index, its core being the distance from the first index of its role. -/
def ofIndex? (index : Nat) : Except Fault (Option Channel) :=
  if index < threadBase then placed .outboundAtomic atomicBase
  else if index < inboundBase then placed .outboundThread threadBase
  else if index < channelCount then placed .inbound inboundBase
  else .ok none
where
  /-- The channel with this index in a role whose indices begin at `base`. -/
  placed (role : Role) (base : Nat) : Except Fault (Option Channel) := do
    let core ← subSize index base
    pure (some ⟨index, role, core⟩)

theorem ofIndex?_eq (index : Nat) : ofIndex? index = .ok (Channel.ofIndex? index) := by
  have hcore : ∀ role base, base ≤ index →
      ofIndex?.placed index role base = .ok (some ⟨index, role, index - base⟩) := by
    intro role base hle
    simp only [ofIndex?.placed, subSize, if_pos hle]
    rfl
  unfold ofIndex? Channel.ofIndex?
  split
  · exact hcore _ _ (Nat.zero_le _)
  · next hthread =>
      split
      · exact hcore _ _ (Nat.not_lt.mp hthread)
      · next hinbound =>
          split
          · exact hcore _ _ (Nat.not_lt.mp hinbound)
          · rfl

/-- Where `count` bytes at `addr` of a region lie in memory. The guard checks
    the end of the access already; the place itself is a sum as well. -/
def dramPlace (kind : RegionKind) (addr count : Nat) : Except Fault Nat :=
  match kind with
  | .dram offset _ => do
    let _ ← Soc.dramPlace kind addr count
    addSize offset addr
  | _ => .error .bytesOnRegisters

/-- Read bytes of a region. -/
def regionLoad (kind : RegionKind) (addr count : Nat) : Action Soc (List Byte) := do
  let start ← Action.ofExcept (dramPlace kind addr count)
  let s ← hardware
  let stop ← Action.ofExcept (addSize start count)
  if stop ≤ dramSize then pure (s.dram.load start count) else fault .indexOutOfBounds

/-- Replace bytes of a region. -/
def regionStore (kind : RegionKind) (addr : Nat) (data : List Byte) : Action Soc Unit := do
  let start ← Action.ofExcept (dramPlace kind addr data.length)
  let stop ← Action.ofExcept (addSize start data.length)
  if stop ≤ dramSize then setHardware (·.stored start data) else fault .indexOutOfBounds

/-- A region as a bus. Only a window of memory has sums to check. -/
def regionBus (region : Region) : Bus Soc where
  read addr :=
    match region.kind with
    | .dram offset size => do
      let bytes ← regionLoad (.dram offset size) addr 4
      pure (Word.ofBytes bytes)
    | _ => (Soc.regionBus region).read addr
  write addr value :=
    match region.kind with
    | .dram offset size => regionStore (.dram offset size) addr (Word.toBytes value)
    | _ => (Soc.regionBus region).write addr value
  readBytes addr count := regionLoad region.kind addr count
  writeBytes addr bytes := regionStore region.kind addr bytes

section

variable {kind : RegionKind} {addr count : Nat}

/-- Inside the memory the place of an access is no more than its size, and the
    end of the access no more than the size of the memory. -/
theorem dramPlace_inside {offset size : Nat} (h : addr + count ≤ size)
    (hin : offset + size ≤ dramSize) :
    dramPlace (.dram offset size) addr count = .ok (offset + addr) := by
  have hplace : addSize offset addr = .ok (offset + addr) :=
    addSize_of_lt (by simp only [dramSize, addressLimit] at hin ⊢; omega)
  simp only [dramPlace, Soc.dramPlace_ok h hin, bind, Except.bind, hplace]

theorem dramPlace_outside {offset size : Nat} (h : ¬addr + count ≤ size) :
    dramPlace (.dram offset size) addr count = .error (bytesRejection addr count size) := by
  simp only [dramPlace, Soc.dramPlace_outside h, bind, Except.bind]

variable (hin : ∀ offset size, kind = .dram offset size → offset + size ≤ dramSize)

include hin

theorem regionLoad_eq : regionLoad kind addr count = Soc.regionLoad kind addr count := by
  funext w
  cases kind with
  | discovery | semaphore => rfl
  | dram offset size =>
      have hin := hin offset size rfl
      by_cases h : addr + count ≤ size
      · have hstop : addSize (offset + addr) count = .ok (offset + addr + count) :=
          addSize_of_lt (by simp only [dramSize, addressLimit] at hin ⊢; omega)
        rw [Soc.regionLoad_run h hin, regionLoad, bind_ok (ofExcept_ok (dramPlace_inside h hin) w),
          bind_ok (hardware_run w), bind_ok (ofExcept_ok hstop w), if_pos (by omega), pure_run]
      · rw [Soc.regionLoad_outside h, regionLoad,
          bind_error (ofExcept_error (dramPlace_outside h) w)]

theorem regionStore_eq {data : List Byte} :
    regionStore kind addr data = Soc.regionStore kind addr data := by
  funext w
  cases kind with
  | discovery | semaphore => rfl
  | dram offset size =>
      have hin := hin offset size rfl
      by_cases h : addr + data.length ≤ size
      · have hstop : addSize (offset + addr) data.length = .ok (offset + addr + data.length) :=
          addSize_of_lt (by simp only [dramSize, addressLimit] at hin ⊢; omega)
        rw [Soc.regionStore_run h hin, regionStore,
          bind_ok (ofExcept_ok (dramPlace_inside h hin) w), bind_ok (ofExcept_ok hstop w),
          if_pos (by omega), setHardware_moved]
      · rw [Soc.regionStore_outside h, regionStore,
          bind_error (ofExcept_error (dramPlace_outside h) w)]

end

/-- No access to a window inside the memory has a sum that does not fit, apart
    from the one that its guard stops for, whatever address it names. -/
theorem regionBus_eq {region : Region}
    (hin : ∀ offset size, region.kind = .dram offset size → offset + size ≤ dramSize) :
    regionBus region = Soc.regionBus region := by
  unfold regionBus Soc.regionBus
  rw [Bus.mk.injEq]
  refine ⟨funext fun addr => ?_, funext fun addr => funext fun value => ?_,
    funext fun addr => funext fun count => regionLoad_eq hin,
    funext fun addr => funext fun data => regionStore_eq hin⟩
  · cases hkind : region.kind with
    | discovery | semaphore => rfl
    | dram offset size =>
        rw [hkind] at hin
        simp only [regionLoad_eq hin]
  · cases hkind : region.kind with
    | discovery | semaphore => rfl
    | dram offset size =>
        rw [hkind] at hin
        simp only [regionStore_eq hin]

end Checked

end BpmpMailbox
