import BpmpMailbox.Soc.Basic

/-!
# The regions of the chip

What an access to a region of the simulated chip does. The discovery registers
answer for the channel that was asked for last and for no other. The semaphore
registers set and clear bits of the word. A window of memory allows every
access that ends inside it, at any alignment, and is the only kind of region
with byte copies.

## Main definitions

* `Soc.discoveryRead`, `Soc.discoveryWrite`: The discovery registers.
* `Soc.semaphoreRead`, `Soc.semaphoreWrite`: The semaphore registers.
* `Soc.dramPlace`: Where an access to a window lands, if it is allowed.
* `Soc.regionBus`: A region as a bus.
-/

namespace BpmpMailbox

namespace Soc

/-- Read a discovery register. Apart from the trigger itself only the result
    of the channel named by the last command is not zero; its four addresses
    give the same answer. -/
def discoveryRead (s : Soc) (addr : Nat) : Word :=
  if addr = triggerAddress then s.trigger
  else if addr < resultBase then 0#32
  else
    let channel := (addr - resultBase) / 4
    if s.trigger = discoveryCommand channel then s.addresses[channel]?.getD 0#32 else 0#32

/-- Write a discovery register. Only the trigger keeps what is written. -/
def discoveryWrite (s : Soc) (addr : Nat) (value : Word) : Soc :=
  if addr = triggerAddress then
    { s with
      trigger := value
      discoveries :=
        if value &&& 0xffff#32 = addressCommand then s.discoveries + 1 else s.discoveries }
  else s

/-- Read a semaphore register. -/
def semaphoreRead (s : Soc) (addr : Nat) : Word := if addr = statusPort then s.word else 0#32

/-- Write a semaphore register. -/
def semaphoreWrite (addr : Nat) (value : Word) : Action Soc Unit :=
  if addr = setPort then setHardware (·.setBits value)
  else if addr = clearPort then setHardware (·.clearBits value)
  else log (.readOnlyWrite value addr)

/-- Where `count` bytes at `addr` of a region lie in memory. It is a fault when
    they leave the region, or when the region has no bytes. -/
def dramPlace (kind : RegionKind) (addr count : Nat) : Except Fault Nat :=
  match kind with
  | .dram offset size => do
    let stop ← addSize addr count
    if stop ≤ size then .ok (offset + addr) else .error (.bytesOutsideWindow addr count size)
  | _ => .error .bytesOnRegisters

/-- Read bytes of memory. -/
def dramLoad (start count : Nat) : Action Soc (List Byte) := do
  let s ← hardware
  if start + count ≤ dramSize then pure (s.dram.load start count) else fault .indexOutOfBounds

/-- Replace bytes of memory. -/
def dramStore (start : Nat) (data : List Byte) : Action Soc Unit :=
  if start + data.length ≤ dramSize then
    setHardware fun s => { s with dram := s.dram.store start data }
  else fault .indexOutOfBounds

/-- Read bytes of a region. -/
def regionLoad (kind : RegionKind) (addr count : Nat) : Action Soc (List Byte) := do
  let start ← Action.ofExcept (dramPlace kind addr count)
  dramLoad start count

/-- Replace bytes of a region. -/
def regionStore (kind : RegionKind) (addr : Nat) (data : List Byte) : Action Soc Unit := do
  let start ← Action.ofExcept (dramPlace kind addr data.length)
  dramStore start data

/-- A region as a bus. -/
def regionBus (region : Region) : Bus Soc where
  read addr :=
    match region.kind with
    | .discovery => do
      let s ← hardware
      pure (s.discoveryRead addr)
    | .semaphore => do
      let s ← hardware
      pure (s.semaphoreRead addr)
    | .dram offset size => do
      let bytes ← regionLoad (.dram offset size) addr 4
      pure (Word.ofBytes bytes)
  write addr value :=
    match region.kind with
    | .discovery => setHardware (·.discoveryWrite addr value)
    | .semaphore => semaphoreWrite addr value
    | .dram offset size => regionStore (.dram offset size) addr (Word.toBytes value)
  readBytes addr count := regionLoad region.kind addr count
  writeBytes addr bytes := regionStore region.kind addr bytes

end Soc

end BpmpMailbox
