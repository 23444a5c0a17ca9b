import BpmpMailbox.Notifier
import BpmpMailbox.Message.Area

/-!
# Configuration

What can be chosen when a mailbox is brought up: which register blocks hold
the discovery registers and the semaphore, which doorbell line wakes the
firmware, and how many bytes of each channel area are mapped. The window is
the only choice that is checked, and only from below: it has to hold a
message.

## Main definitions

* `Configuration`: The choices.
* `Configuration.standard`: The layout of the chip.
* `Configuration.check`: Refuse a window that cannot hold a message.
-/

namespace BpmpMailbox

/-- The choices made when a mailbox is brought up. -/
structure Configuration where
  /-- The number of the register block with the discovery registers. -/
  discoveryBlock : Nat
  /-- The number of the register block with the semaphore. -/
  semaphoreBlock : Nat
  /-- The line that wakes the firmware. -/
  doorbellLine : Word
  /-- The number of bytes mapped for each channel area. -/
  areaWindow : Nat
  deriving DecidableEq, Repr

namespace Configuration

/-- The layout of the chip. -/
def standard : Configuration where
  discoveryBlock := 0
  semaphoreBlock := 1
  doorbellLine := outboundDoorbell
  areaWindow := 0x80

/-- Refuse a window that cannot hold a message. -/
def check (c : Configuration) : Except Refusal Unit :=
  if c.areaWindow < messageSize then .error (.windowTooSmall c.areaWindow messageSize)
  else .ok ()

end Configuration

end BpmpMailbox
