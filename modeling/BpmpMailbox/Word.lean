/-!
# Machine words

The transport moves 32-bit words and single bytes, and counts in sizes and
addresses that the machine holds in 64 bits. Words and bytes are bit vectors,
so that masks, shifts and wrap-around are the machine's own. Addresses and
sizes are natural numbers instead: almost every rule about them compares a
sum with a limit, and the sum must be the mathematical one for the comparison
to say anything. The one place where the width of an address shows is
`addressLimit`; a sum that reaches it stops the machine.

A word lies in memory with its low byte first.

## Main definitions

* `Byte`, `Word`, `Code`: Eight bits, thirty-two bits, and a signed message code.
* `addressLimit`: The first number that does not fit an address.
* `Word.toBytes`: The four bytes of a word, low byte first.
* `Word.ofBytes`: The word with the given bytes, low byte first.
* `Word.lane`: The byte of a word at one of its four lanes.
* `Word.withLane`: A word with the byte at one lane replaced.
* `hexText`: A number in lower-case hexadecimal digits.

## Theorems

* `Word.ofBytes_toBytes`: Reading back the bytes of a word gives the word.
-/

namespace BpmpMailbox

/-- Eight bits. -/
abbrev Byte := BitVec 8

/-- Thirty-two bits, the unit of every register access. -/
abbrev Word := BitVec 32

/-- A message code, thirty-two bits read as a signed number. -/
abbrev Code := BitVec 32

/-- The first number that does not fit an address or a size. -/
def addressLimit : Nat := 0x10000000000000000

/-- The number in lower-case hexadecimal digits, without leading zeros. -/
def hexText (n : Nat) : String := String.ofList (Nat.toDigits 16 n)

/-- The byte in two hexadecimal digits. -/
def Byte.hexText (b : Byte) : String :=
  String.ofList [Nat.digitChar (b.toNat / 16), Nat.digitChar (b.toNat % 16)]

namespace Word

/-- The byte at lane `i` of a word; lane 0 is the lowest. -/
def lane (w : Word) (i : Nat) : Byte := (w >>> (8 * i)).setWidth 8

/-- The word `w` with the byte at lane `i` replaced by `b`. -/
def withLane (w : Word) (i : Nat) (b : Byte) : Word :=
  (w &&& ~~~(0xff#32 <<< (8 * i))) ||| (b.setWidth 32 <<< (8 * i))

/-- The bytes of a word in memory order, low byte first. -/
def toBytes (w : Word) : List Byte := [lane w 0, lane w 1, lane w 2, lane w 3]

/-- The word whose bytes in memory order start with those given; bytes that
    are missing count as zero. -/
def ofBytes : List Byte → Word
  | [] => 0
  | b :: bytes => (ofBytes bytes <<< 8) ||| b.setWidth 32

theorem ofBytes_toBytes (w : Word) : ofBytes (toBytes w) = w := by
  ext i hi
  simp only [toBytes, ofBytes, lane, BitVec.getElem_or, BitVec.getElem_shiftLeft,
    BitVec.getElem_setWidth, BitVec.getLsbD_setWidth, BitVec.getLsbD_ushiftRight]
  -- The bit lies in one of the four lanes, and each lane gives back its own bits.
  by_cases h8 : i < 8
  · simp [h8, BitVec.getLsbD_eq_getElem hi]
  · by_cases h16 : i < 16
    · simp [h8, show i - 8 < 8 by omega, show 8 + (i - 8) = i by omega,
        BitVec.getLsbD_eq_getElem hi]
    · by_cases h24 : i < 24
      · simp [h8, show ¬ i - 8 < 8 by omega, show i - 8 - 8 < 8 by omega,
          show 16 + (i - 8 - 8) = i by omega, BitVec.getLsbD_eq_getElem hi]
      · simp [h8, show ¬ i - 8 < 8 by omega, show ¬ i - 8 - 8 < 8 by omega,
          show i - 8 - 8 - 8 < 8 by omega, show 24 + (i - 8 - 8 - 8) = i by omega,
          BitVec.getLsbD_eq_getElem hi]

end Word

end BpmpMailbox
