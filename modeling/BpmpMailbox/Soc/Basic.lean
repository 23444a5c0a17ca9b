import BpmpMailbox.Discovery
import BpmpMailbox.Notifier
import BpmpMailbox.Hardware.Memory

/-!
# The simulated chip

A chip to run the transport on: the semaphore word, the discovery registers,
memory for the channel areas, one doorbell per core, and counters that a test
can look at. Each setup step that can fail can be made to fail.

The counters of discoveries and of memory mappings only grow and are kept as
natural numbers. A counter of 64 bits, which is what the simulated chip has,
begins again at zero after 2^64 discoveries or mappings; that is left out, since
no run comes near it. The number of live regions goes down as well, and is held
in 64 bits: giving back more than was handed out would show as a very large
number, not as zero.

## Main definitions

* `Injection`: The setup steps that are made to fail.
* `Soc`: The state of the chip.
* `Soc.initial`, `Soc.boot`, `Soc.booted`: Before, and after, the firmware has started.
* `Soc.state`: The state of a channel, read off the word alone.
* `Soc.areaOffset`: Where a channel's area lies in memory.
-/

namespace BpmpMailbox

/-- The setup steps that are made to fail. -/
structure Injection where
  /-- The register block that cannot be mapped. -/
  missingBlock : Option Nat
  /-- The memory mapping that fails, counted from zero. -/
  failingMapping : Option Nat
  /-- The core whose handler is refused, and the error given. -/
  refusedCore : Option (Nat × DoorbellError)
  deriving DecidableEq, Repr

/-- Nothing is made to fail. -/
def Injection.none : Injection := ⟨.none, .none, .none⟩

/-- The state of the simulated chip. -/
structure Soc where
  /-- The semaphore word. -/
  word : Word
  /-- The last discovery command. -/
  trigger : Word
  /-- Where the firmware has placed the area of each channel; zero is nowhere. -/
  addresses : Vector Word channelCount
  /-- The memory for channel areas. -/
  dram : Memory dramSize
  /-- The handler of each core. -/
  handlers : Vector (Option Binding) coreCount
  /-- The doorbell lines rung, oldest first. -/
  rings : List Word
  faults : Injection
  /-- The number of discovery commands received. -/
  discoveries : Nat
  /-- The number of memory mappings asked for. -/
  memoryMappings : Nat
  /-- The number of regions handed out and not given back. -/
  liveRegions : BitVec 64
  /-- The number of regions ever handed out. -/
  handouts : Nat
  /-- The running core. -/
  cpu : Nat

namespace Soc

/-- A chip whose firmware has not started. -/
def initial : Soc where
  word := 0#32
  trigger := 0#32
  addresses := Vector.replicate channelCount 0#32
  dram := Memory.zero dramSize
  handlers := Vector.replicate coreCount none
  rings := []
  faults := .none
  discoveries := 0
  memoryMappings := 0
  liveRegions := 0#64
  handouts := 0
  cpu := 0

/-- The word in which every channel is free for its master. -/
def freeWord : Word :=
  (List.range channelCount).foldl (fun w channel => w ||| ChannelState.free.bits channel) 0#32

/-- The addresses at which the firmware places the areas, one after the other. -/
def bootAddresses : Vector Word channelCount :=
  Vector.ofFn fun channel => BitVec.ofNat 32 (dramBase + channel.val * messageSize)

/-- Start the firmware: place the areas and publish the handshake with every
    channel free. -/
def boot (s : Soc) : Soc := { s with addresses := bootAddresses, word := freeWord }

/-- A chip whose firmware has started. -/
def booted : Soc := initial.boot

/-- The state of a channel, read off the word by shifting alone. -/
def state (s : Soc) (channel : Nat) : Except Fault ChannelState := do
  let distance ← mulSize channel 2
  let word ← shiftRightWord s.word distance
  pure (.ofCode word)

/-- Where the area of a channel lies in memory, by what was published. -/
def areaOffset (s : Soc) (channel : Nat) : Except Fault Nat :=
  match s.addresses[channel]? with
  | some addr => subSize addr.toNat dramBase
  | none => .error .indexOutOfBounds

/-- Publish another address for a channel. -/
def setAddress (s : Soc) (channel : Nat) (addr : Word) : Except Fault Soc :=
  if h : channel < channelCount then .ok { s with addresses := s.addresses.set channel addr h }
  else .error .indexOutOfBounds

/-- The cores that have a handler. -/
def registeredCores (s : Soc) : List Nat :=
  (List.range coreCount).filter fun core => (s.handlers[core]?.join).isSome

/-- What is installed for a core. -/
def binding? (s : Soc) (core : Nat) : Option Binding := s.handlers[core]?.join

/-- Set bits of the semaphore word. -/
def setBits (s : Soc) (bits : Word) : Soc := { s with word := s.word ||| bits }

/-- Clear bits of the semaphore word. -/
def clearBits (s : Soc) (bits : Word) : Soc := { s with word := s.word &&& ~~~bits }

end Soc

end BpmpMailbox
