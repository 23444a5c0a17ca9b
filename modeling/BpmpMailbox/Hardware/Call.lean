import BpmpMailbox.Word

/-!
# Hardware calls

The transport reaches the hardware through a handful of calls: it maps and
unmaps regions, reads and writes inside a region, rings and installs doorbells
and asks which core it runs on. This module names those calls, so that a run
can be described by the calls it made, in order.

A region is a window that a mapping handed out. Its `ticket` counts the
hand-outs, so two regions over the same bytes are still two regions, and one
can say of each whether it was given back.

## Main definitions

* `RegionKind`, `Region`: What a mapping hands out.
* `Access`: One read or write inside a region.
* `HardwareCall`: One call to the hardware.
-/

namespace BpmpMailbox

/-- The physical address where the memory for channel areas begins. -/
def dramBase : Nat := 0x80000000

/-- The size of the memory for channel areas. -/
def dramSize : Nat := 0x1000

/-- What lies behind a region. -/
inductive RegionKind where
  /-- The discovery registers. -/
  | discovery
  /-- The semaphore registers. -/
  | semaphore
  /-- `size` bytes of memory from `offset` on. -/
  | dram (offset size : Nat)
  deriving DecidableEq, Repr

/-- A window that a mapping handed out. -/
structure Region where
  kind : RegionKind
  /-- The number of regions handed out before this one. -/
  ticket : Nat
  deriving DecidableEq, Repr

/-- What was mapped: a register block by its number, memory by its physical address. -/
def Region.name (r : Region) : String :=
  match r.kind with
  | .discovery => "res0"
  | .semaphore => "res1"
  | .dram offset _ => s!"@{hexText (dramBase + offset)}"

/-- One read or write inside a region; byte copies are named by their length. -/
inductive Access where
  | read (addr : Nat)
  | write (addr : Nat) (value : Word)
  | readBytes (addr count : Nat)
  | writeBytes (addr count : Nat)
  deriving DecidableEq, Repr

/-- The access in short form. -/
def Access.text : Access → String
  | .read addr => s!"r{hexText addr}"
  | .write addr value => s!"w{hexText addr}={hexText value.toNat}"
  | .readBytes addr count => s!"rb{hexText addr}+{count}"
  | .writeBytes addr count => s!"wb{hexText addr}+{count}"

/-- One call to the hardware. -/
inductive HardwareCall where
  | mapBlock (index : Nat)
  | mapMemory (phys size : Nat)
  | unmap (region : Region)
  | access (region : Region) (access : Access)
  | ring (line : Word)
  | register (core channel : Nat)
  | runningCore
  deriving DecidableEq, Repr

/-- The call in short form. -/
def HardwareCall.text : HardwareCall → String
  | .mapBlock index => s!"map_resource {index}"
  | .mapMemory phys size => s!"map_phys {hexText phys} {hexText size}"
  | .unmap region => s!"unmap {region.name}"
  | .access region act => s!"{region.name} {act.text}"
  | .ring line => s!"ring {line.toNat}"
  | .register core channel => s!"register {core} {channel}"
  | .runningCore => "current_cpu"

end BpmpMailbox
