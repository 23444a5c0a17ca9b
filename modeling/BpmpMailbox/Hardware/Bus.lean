import BpmpMailbox.Hardware.Action

/-!
# Buses

A bus is a window with 32-bit words, read and written at byte addresses, and
with byte copies. Hardware that has no byte copies of its own gets them from
words: each byte is one lane of the aligned word around it, so a copy out
reads that word and takes the lane, and a copy in reads the word, replaces the
lane and writes it back. That is right for plain memory only. On a register
where a write means something else than "hold this value", writing back the
other three lanes is a mistake.

## Main definitions

* `Bus`: Words and byte copies over hardware of state `σ`.
* `readLanes`, `writeLanes`: Byte copies through words.
* `Bus.ofWords`: A bus with byte copies through words.
* `Bus.noted`: A bus that notes each access before it carries it out.
-/

namespace BpmpMailbox

/-- A window of words and bytes over hardware of state `σ`. -/
structure Bus (σ : Type) where
  read : Nat → Action σ Word
  write : Nat → Word → Action σ Unit
  readBytes : Nat → Nat → Action σ (List Byte)
  writeBytes : Nat → List Byte → Action σ Unit

section Lanes

variable {σ : Type}

/-- Read `count` bytes through words; the byte numbered `i` comes from `addr + i`. -/
def readLanes (read : Nat → Action σ Word) (addr i : Nat) : Nat → Action σ (List Byte)
  | 0 => pure []
  | count + 1 => do
    let place ← Action.ofExcept (addSize addr i)
    let word ← read (place - place % 4)
    let bytes ← readLanes read addr (i + 1) count
    pure (Word.lane word (place % 4) :: bytes)

/-- Write bytes through words; the byte numbered `i` goes to `addr + i`. -/
def writeLanes (read : Nat → Action σ Word) (write : Nat → Word → Action σ Unit) (addr i : Nat) :
    List Byte → Action σ Unit
  | [] => pure ()
  | byte :: bytes => do
    let place ← Action.ofExcept (addSize addr i)
    let word ← read (place - place % 4)
    write (place - place % 4) (Word.withLane word (place % 4) byte)
    writeLanes read write addr (i + 1) bytes

end Lanes

namespace Bus

variable {σ : Type}

/-- The bus whose byte copies go through its words. -/
def ofWords (read : Nat → Action σ Word) (write : Nat → Word → Action σ Unit) : Bus σ where
  read := read
  write := write
  readBytes addr count := readLanes read addr 0 count
  writeBytes addr bytes := writeLanes read write addr 0 bytes

/-- The bus that notes each access, as an access to `region`, before it is
    carried out. -/
def noted (b : Bus σ) (region : Region) : Bus σ where
  read addr := do
    note (.call (.access region (.read addr)))
    b.read addr
  write addr value := do
    note (.call (.access region (.write addr value)))
    b.write addr value
  readBytes addr count := do
    note (.call (.access region (.readBytes addr count)))
    b.readBytes addr count
  writeBytes addr bytes := do
    note (.call (.access region (.writeBytes addr bytes.length)))
    b.writeBytes addr bytes

end Bus

end BpmpMailbox
