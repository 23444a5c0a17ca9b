import BpmpMailbox.Word

/-!
# Faults

A fault is a stop that no caller answers for: an arithmetic result that does
not fit its width, an access outside its window, an assertion about the
protocol that turned out false. A fault ends the operation where it stands and
takes back nothing, so whatever the operation changed before remains changed.
Refusals are different: they are answers, and they live in `Refusal`.

Each cause is a constructor and `Fault.message` gives its wording.

## Main definitions

* `Arithmetic`: The operations whose result can fail to fit.
* `Fault`: The causes of a stop.
* `Fault.message`: The text that names the cause.
* `addSize`, `subSize`, `mulSize`: Arithmetic on addresses and sizes.
* `shiftLeftWord`, `shiftRightWord`: Shifts of a word.

## Theorems

* `addSize_of_lt`, `addSize_of_le`: A sum fits, or it is a fault.
-/

namespace BpmpMailbox

/-- The arithmetic operations whose result can fail to fit. -/
inductive Arithmetic where
  | add
  | subtract
  | multiply
  | shiftLeft
  | shiftRight
  deriving DecidableEq, Repr

/-- The name of the operation inside a fault's text. -/
def Arithmetic.verb : Arithmetic → String
  | .add => "add"
  | .subtract => "subtract"
  | .multiply => "multiply"
  | .shiftLeft => "shift left"
  | .shiftRight => "shift right"

/-- The causes for which an operation stops without an answer. -/
inductive Fault where
  /-- A core number was not below the number of cores. -/
  | coreOutOfRange
  /-- A thread slot was not below the number of thread slots. -/
  | slotOutOfRange
  /-- The release of a channel that does not hold an acknowledgement. -/
  | releaseOutsideAck (channel : Nat)
  /-- Bits to be set lie outside the channel's field. -/
  | setOutsideField (channel : Nat)
  /-- Bits to be cleared lie outside the channel's field. -/
  | clearOutsideField (channel : Nat)
  /-- A word access that is misaligned or leaves its register window. -/
  | wordOutsideWindow (addr : Nat)
  /-- A byte access that leaves its memory window. -/
  | bytesOutsideWindow (addr count size : Nat)
  /-- A byte access on a block that has only registers. -/
  | bytesOnRegisters
  /-- The firmware side was asked to write more than a message holds. -/
  | firmwarePayloadTooLarge
  /-- An index or a range of indices leaves its table. -/
  | indexOutOfBounds
  /-- An arithmetic result does not fit its width. -/
  | overflow (operation : Arithmetic)
  /-- Interrupt handlers raise each other's doorbells without an end. -/
  | endlessInterrupts
  deriving DecidableEq, Repr

/-- The text that names the cause of a fault. -/
def Fault.message : Fault → String
  | .coreOutOfRange => "assertion failed: core < NR_CPUS"
  | .slotOutOfRange => "assertion failed: index < NR_CPUS"
  | .releaseOutsideAck channel => s!"release of ch{channel} outside MA_ACKD"
  | .setOutsideField channel => s!"set outside ch{channel} field"
  | .clearOutsideField channel => s!"clear outside ch{channel} field"
  | .wordOutsideWindow addr => s!"mmio access 0x{hexText addr} outside window"
  | .bytesOutsideWindow addr count size =>
    s!"sim: access 0x{hexText addr}+{count} outside 0x{hexText size} window"
  | .bytesOnRegisters => "internal error: entered unreachable code: byte access on a register block"
  | .firmwarePayloadTooLarge => "sim: payload too large"
  | .indexOutOfBounds => "index out of bounds"
  | .overflow operation => s!"attempt to {operation.verb} with overflow"
  | .endlessInterrupts => "interrupt handlers never return"

/-- The sum of two addresses or sizes, a fault when it does not fit. -/
def addSize (a b : Nat) : Except Fault Nat :=
  if a + b < addressLimit then .ok (a + b) else .error (.overflow .add)

theorem addSize_of_lt {a b : Nat} (h : a + b < addressLimit) : addSize a b = .ok (a + b) :=
  if_pos h

theorem addSize_of_le {a b : Nat} (h : addressLimit ≤ a + b) :
    addSize a b = .error (.overflow .add) :=
  if_neg (Nat.not_lt.mpr h)

/-- The difference of two addresses, a fault when it would be negative. -/
def subSize (a b : Nat) : Except Fault Nat :=
  if b ≤ a then .ok (a - b) else .error (.overflow .subtract)

/-- The product of two sizes, a fault when it does not fit. -/
def mulSize (a b : Nat) : Except Fault Nat :=
  if a * b < addressLimit then .ok (a * b) else .error (.overflow .multiply)

/-- The word shifted left, a fault when the distance is not below its width. -/
def shiftLeftWord (w : Word) (distance : Nat) : Except Fault Word :=
  if distance < 32 then .ok (w <<< distance) else .error (.overflow .shiftLeft)

/-- The word shifted right, a fault when the distance is not below its width. -/
def shiftRightWord (w : Word) (distance : Nat) : Except Fault Word :=
  if distance < 32 then .ok (w >>> distance) else .error (.overflow .shiftRight)

end BpmpMailbox
