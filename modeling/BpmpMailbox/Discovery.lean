import BpmpMailbox.Hardware.Platform
import BpmpMailbox.Message.Area
import BpmpMailbox.Semaphore

/-!
# Discovery of the channel areas

The firmware places one area per channel before it publishes the handshake. To
learn where an area lies, one writes a command with the channel's number to
the trigger register and reads the channel's result register. A result of zero
means that there is no area.

`handshake` runs the whole handshake. Nothing is mapped before every channel has
reported an area; if a mapping fails after that, the areas mapped so far are
given back, in the order in which they were mapped, before the refusal.

## Main definitions

* `discoveryCommand`, `resultAddress`: The discovery command and result register of a channel.
* `channelAddress`: Ask where the area of a channel lies.
* `discoverAreas`, `mapAreas`: All channels asked, all areas mapped.
* `AreaTable`: The windows of all channels.
* `handshake`: The handshake.
-/

namespace BpmpMailbox

/-- The address of the discovery trigger. -/
def triggerAddress : Nat := 0x000

/-- The address of the first discovery result. -/
def resultBase : Nat := 0xc00

/-- The command that asks for the address of an area. -/
def addressCommand : Word := 4#32

/-- The address of a channel's discovery result. -/
def resultAddress (channel : Nat) : Except Fault Nat := do
  let distance ← mulSize channel 4
  addSize resultBase distance

/-- The command that asks for the area of a channel: the low half of the
    channel's number above the command. -/
def discoveryCommand (channel : Nat) : Word := (BitVec.ofNat 32 channel <<< 16) ||| addressCommand

section

variable {σ : Type}

/-- Ask the firmware where the area of a channel lies; zero means nowhere. -/
def channelAddress (discovery : Bus σ) (channel : Nat) : Action σ Word := do
  discovery.write triggerAddress (discoveryCommand channel)
  let place ← Action.ofExcept (resultAddress channel)
  discovery.read place

/-- Ask for the area of each channel and refuse when one has none. -/
def discoverAreas (discovery : Bus σ) : List Channel → Action σ (List (Channel × Word))
  | [] => pure []
  | channel :: channels => do
    let addr ← channelAddress discovery channel.index
    if addr = 0#32 then
      log (.noAreaReported channel.index)
      refuse (.noArea channel.index)
    else
      let areas ← discoverAreas discovery channels
      pure ((channel, addr) :: areas)

/-- Map the area of each channel after those already mapped, and refuse when
    one cannot be mapped, with all of them given back. -/
def mapAreas (io : Mapping σ) (window : Nat) (mapped : List Region) :
    List (Channel × Word) → Action σ (List Region)
  | [] => pure mapped
  | (channel, addr) :: areas => do
    match ← io.mapMemory addr.toNat window with
    | some region =>
      log (.areaMapped channel addr)
      mapAreas io window (mapped ++ [region]) areas
    | none =>
      log (.areaNotMapped channel.index addr)
      mapped.forM io.unmap
      refuse (.areaNotMapped channel.index)

end

/-- The windows of all channels, in order of channel. -/
structure AreaTable where
  windows : List Region
  deriving DecidableEq, Repr

namespace AreaTable

/-- The window in which requests on a channel arrive. -/
def inbound? (a : AreaTable) (channel : Nat) : Option Region := a.windows[channel]?

/-- The window in which requests on a channel leave: the same one. -/
def outbound? (a : AreaTable) (channel : Nat) : Option Region := a.windows[channel]?

end AreaTable

/-- Run the discovery handshake and map every area with a window of the given size. -/
def handshake {σ : Type} (io : Mapping σ) (discovery : Bus σ) (semaphore : Semaphore σ)
    (window : Nat) : Action σ AreaTable := do
  let word ← semaphore.status
  if word = 0#32 then
    log .handshakeMissing
    refuse .notReady
  else
    let areas ← discoverAreas discovery Channel.all
    let windows ← mapAreas io window [] areas
    pure ⟨windows⟩

end BpmpMailbox
