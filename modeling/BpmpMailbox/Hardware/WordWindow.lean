import BpmpMailbox.Hardware.Bus
import BpmpMailbox.Hardware.Memory

/-!
# Register windows over plain memory

A window of whole words over `size` bytes of memory. A word access is carried
out when its address is a multiple of four and the word ends inside the window;
the bytes of an incomplete last word are out of reach. The end of the word is
computed as an address, so a word at the very top of the address range stops
with an overflow before it can be compared with the window.

## Main definitions

* `WordWindow.check`: Whether a word access stays inside the window.
* `WordWindow.bus`: The window as a bus.
* `WordWindow.wholeWords`: How many bytes of the window are within reach.
-/

namespace BpmpMailbox

namespace WordWindow

/-- The number of bytes that belong to whole words of the window. -/
def wholeWords (size : Nat) : Nat := size / 4 * 4

/-- Stop unless the word at `addr` is aligned and ends inside the window. -/
def check (size addr : Nat) : Except Fault Unit :=
  if addr % 4 = 0 then
    match addSize addr 4 with
    | .ok stop => if stop ≤ size then .ok () else .error (.wordOutsideWindow addr)
    | .error f => .error f
  else .error (.wordOutsideWindow addr)

/-- The window over a memory of `size` bytes; byte copies go through its words. -/
def bus (size : Nat) : Bus (Memory size) :=
  Bus.ofWords
    (fun addr => do
      Action.ofExcept (check size addr)
      let m ← hardware
      pure (m.loadWord addr))
    (fun addr value => do
      Action.ofExcept (check size addr)
      setHardware (·.storeWord addr value))

end WordWindow

end BpmpMailbox
