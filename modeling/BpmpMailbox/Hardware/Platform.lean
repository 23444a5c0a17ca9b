import BpmpMailbox.Hardware.Bus

/-!
# Platforms

What a mailbox needs from the machine it runs on, in three parts: a service
that maps regions and takes them back, doorbells that can be rung and given a
handler, and the number of the core that is running. The parts are kept apart
because some users need one of them only.

## Main definitions

* `Mapping`: Regions are handed out, reached and taken back.
* `Doorbells`: Lines are rung and handlers installed.
* `Platform`: Both, and the running core.
-/

namespace BpmpMailbox

/-- The service that hands out regions and takes them back. -/
structure Mapping (σ : Type) where
  /-- The window of a region. -/
  bus : Region → Bus σ
  /-- The register block with a number, if it can be mapped. -/
  mapBlock : Nat → Action σ (Option Region)
  /-- So many bytes of memory from a physical address on, if they can be mapped. -/
  mapMemory : Nat → Nat → Action σ (Option Region)
  /-- Give a region back. -/
  unmap : Region → Action σ Unit

/-- The service that delivers notifications between cores. -/
structure Doorbells (σ : Type) where
  /-- Notify whoever listens on a line. -/
  ring : Word → Action σ Unit
  /-- Install the handler of a core. -/
  register : Nat → Binding → Action σ (Except DoorbellError Unit)

/-- Everything a mailbox needs from its machine. -/
structure Platform (σ : Type) extends Mapping σ, Doorbells σ where
  /-- The core that is running. -/
  runningCore : Action σ Nat

end BpmpMailbox
