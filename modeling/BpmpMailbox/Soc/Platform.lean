import BpmpMailbox.Soc.Window

/-!
# The chip as a platform

The simulated chip hands out regions, delivers doorbells and names the running
core. Two register blocks exist; memory is mapped when it lies inside the
simulated range, and the end of a mapping is computed as an address, so a
mapping that would end past the top of the address range stops with an
overflow.

Every call that comes through the platform is noted in the journal before it
is carried out.

## Main definitions

* `Soc.mapBlock`, `Soc.mapMemory`, `Soc.unmap`: Hand out regions and take them back.
* `Soc.register`: Install the handler of a core.
* `Soc.platform`: The chip as a platform.
-/

namespace BpmpMailbox

namespace Soc

/-- Hand out a region. -/
def handOut (kind : RegionKind) : Action Soc (Option Region) := do
  let s ← hardware
  setHardware fun s => { s with liveRegions := s.liveRegions + 1#64, handouts := s.handouts + 1 }
  pure (some ⟨kind, s.handouts⟩)

/-- What lies behind a register block, if it is there. -/
def resource? (s : Soc) (index : Nat) : Option RegionKind :=
  if s.faults.missingBlock = some index then none
  else if index = 0 then some .discovery
  else if index = 1 then some .semaphore
  else none

/-- Hand out a register block. -/
def mapBlock (index : Nat) : Action Soc (Option Region) := do
  let s ← hardware
  match s.resource? index with
  | some kind => handOut kind
  | none => pure none

/-- Hand out a window of memory. The call is counted whether it succeeds or
    not. -/
def mapMemory (phys size : Nat) : Action Soc (Option Region) := do
  let s ← hardware
  setHardware fun s => { s with memoryMappings := s.memoryMappings + 1 }
  if s.faults.failingMapping = some s.memoryMappings then pure none
  else if phys < dramBase then pure none
  else
    let stop ← Action.ofExcept (addSize phys size)
    if stop ≤ dramBase + dramSize then handOut (.dram (phys - dramBase) size) else pure none

/-- Take a region back. -/
def unmap : Action Soc Unit :=
  setHardware fun s => { s with liveRegions := s.liveRegions - 1#64 }

/-- Ring a doorbell line. -/
def ring (line : Word) : Action Soc Unit :=
  setHardware fun s => { s with rings := s.rings ++ [line] }

/-- The answer to installing a handler for a core. -/
def registration (s : Soc) (core : Nat) : Except DoorbellError Unit :=
  match s.faults.refusedCore with
  | some (refused, error) => if refused = core then .error error else vacant
  | none => vacant
where
  /-- Refused when there is no such core, or when it has a handler. -/
  vacant : Except DoorbellError Unit :=
    match s.handlers[core]? with
    | none => .error (.noDoorbell core)
    | some (some _) => .error (.occupied core)
    | some none => .ok ()

/-- Install the handler of a core. -/
def register (core : Nat) (binding : Binding) : Action Soc (Except DoorbellError Unit) := do
  let s ← hardware
  match s.registration core with
  | .error error => pure (.error error)
  | .ok () =>
    setHardware fun s => { s with handlers := s.handlers.setIfInBounds core (some binding) }
    pure (.ok ())

/-- The chip as a platform; each call is noted and then carried out. -/
def platform : Platform Soc where
  bus region := (regionBus region).noted region
  mapBlock index := do
    note (.call (.mapBlock index))
    mapBlock index
  mapMemory phys size := do
    note (.call (.mapMemory phys size))
    mapMemory phys size
  unmap region := do
    note (.call (.unmap region))
    unmap
  ring line := do
    note (.call (.ring line))
    ring line
  register core binding := do
    note (.call (.register core binding.channel))
    register core binding
  runningCore := do
    note (.call .runningCore)
    let s ← hardware
    pure s.cpu

end Soc

end BpmpMailbox
