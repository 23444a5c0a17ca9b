import BpmpMailbox.Configuration
import BpmpMailbox.Discovery

/-!
# The mailbox

A mailbox is what is left of a successful handshake: the semaphore, the
windows of all channels, and the configuration. `connect` brings it up and
`disconnect` gives back everything it holds. Between the two, requests leave
on outbound channels and are answered on them, and the firmware's requests
arrive on inbound channels and are answered there.

The order inside each operation is the protocol. A request is written before
the channel is handed over, because after that the buffer belongs to the
firmware. A response is read before its channel is freed, for the same reason.
The doorbell comes last, so that whoever it wakes finds everything in place.

`respond` answers whatever state the channel is in; an answer that nobody
waits for is carried out with a warning.

## Main definitions

* `Mailbox`: What a mailbox holds.
* `Mailbox.connect`, `Mailbox.disconnect`: Bring up and take down.
* `Mailbox.send`, `Mailbox.collect`: The two halves of a request.
* `Mailbox.respond`: The answer to a request of the firmware.
* `Mailbox.installHandler`: Install a handler for every core.
-/

namespace BpmpMailbox

/-- What a mailbox holds between `connect` and `disconnect`. -/
structure Mailbox where
  /-- The region of the semaphore registers. -/
  semaphoreRegion : Region
  /-- The windows of the channels. -/
  areas : AreaTable
  config : Configuration
  deriving DecidableEq, Repr

namespace Mailbox

variable {σ : Type}

/-- Map the register blocks and run the handshake. When it is refused, nothing
    stays mapped. -/
def connect (pf : Platform σ) (config : Configuration) : Action σ Mailbox := do
  if let .error e := config.check then
    refuse e
  else
    let some discovery ← pf.mapBlock config.discoveryBlock
      | refuse (.noDevice config.discoveryBlock)
    let some semaphore ← pf.mapBlock config.semaphoreBlock
      | do
        pf.unmap discovery
        refuse (.noDevice config.semaphoreBlock)
    let found ←
      attempt (handshake pf.toMapping (pf.bus discovery) ⟨pf.bus semaphore⟩ config.areaWindow)
    -- The discovery registers have served their purpose, whatever came of it.
    pf.unmap discovery
    match found with
    | .ok areas =>
      log (.connected areas.windows.length config.doorbellLine)
      pure ⟨semaphore, areas, config⟩
    | .error e =>
      pf.unmap semaphore
      refuse e

/-- Give back the windows of all channels and the semaphore. -/
def disconnect (pf : Platform σ) (mb : Mailbox) : Action σ Unit := do
  mb.areas.windows.forM pf.unmap
  pf.unmap mb.semaphoreRegion
  log .disconnected

/-- The semaphore of a mailbox. -/
def semaphore (pf : Platform σ) (mb : Mailbox) : Semaphore σ := ⟨pf.bus mb.semaphoreRegion⟩

/-- The way a mailbox wakes the firmware. -/
def notifier (pf : Platform σ) (mb : Mailbox) : Notifier σ :=
  ⟨pf.toDoorbells, mb.config.doorbellLine⟩

/-- The area of a channel; refused past the last channel. -/
def area (pf : Platform σ) (mb : Mailbox) (channel : Nat) : Action σ (ChannelArea σ) :=
  match mb.areas.outbound? channel with
  | some window => pure ⟨pf.bus window⟩
  | none => refuse (.invalidChannel channel)

/-- The area of a channel on which requests leave; refused for all others. -/
def outboundArea (pf : Platform σ) (mb : Mailbox) (channel : Nat) : Action σ (ChannelArea σ) :=
  match Channel.ofIndex? channel with
  | some c => if c.role.isOutbound then mb.area pf channel else refuse (.invalidChannel channel)
  | none => refuse (.invalidChannel channel)

/-- The state of a channel; refused past the last channel. -/
def stateOf (pf : Platform σ) (mb : Mailbox) (channel : Nat) : Action σ ChannelState := do
  match ← (mb.semaphore pf).state? channel with
  | some state => pure state
  | none => refuse (.invalidChannel channel)

/-- Refuse unless the channel is in the state that grants its buffer. -/
def requireState (pf : Platform σ) (mb : Mailbox) (channel : Nat) (granted : ChannelState) :
    Action σ Unit := do
  let state ← mb.stateOf pf channel
  if state = granted then pure () else refuse (.channelBusy channel state)

/-- Post a request on an outbound channel and wake the firmware. Only a free
    channel accepts one. -/
def send (pf : Platform σ) (mb : Mailbox) (channel : Nat) (code : Code)
    (flags : MessageFlags) (payload : List Byte) : Action σ Unit := do
  let area ← mb.outboundArea pf channel
  mb.requireState pf channel .free
  area.writePayload payload
  area.setCode code
  area.setFlags flags
  (mb.semaphore pf).signal channel
  (mb.notifier pf).ring channel

/-- Collect the response on an outbound channel into a buffer and free the
    channel. The result is the response's code, the number of bytes filled,
    and the buffer. -/
def collect (pf : Platform σ) (mb : Mailbox) (channel : Nat) (buffer : List Byte) :
    Action σ (Code × Nat × List Byte) := do
  let area ← mb.outboundArea pf channel
  mb.requireState pf channel .acknowledged
  let code ← area.code
  let filled ← area.readPayload buffer
  (mb.semaphore pf).release channel
  pure (code, filled)

/-- Place the response to a request of the firmware, acknowledge it, and ring
    when the request asked for it. -/
def respond (pf : Platform σ) (mb : Mailbox) (channel : Nat) (code : Code)
    (data : List Byte) : Action σ Unit := do
  if channel < channelCount then
    if data.length ≤ payloadSize then
      let area ← mb.area pf channel
      area.writePayload data
      area.setCode code
      let flags ← match mb.areas.inbound? channel with
        | some window => (⟨pf.bus window⟩ : ChannelArea σ).flags
        | none => refuse (.invalidChannel channel)
      let state ← mb.stateOf pf channel
      if state = .signalled ∨ state = .queued then pure ()
      else log (.responseUnasked channel state)
      (mb.semaphore pf).acknowledge channel flags
      if flags.contains .ringDoorbell then (mb.notifier pf).ring channel else pure ()
    else
      log (.responseTooLarge channel data.length payloadSize)
      refuse (.payloadTooLarge data.length payloadSize)
  else
    log (.responseToInvalid channel)
    refuse (.invalidChannel channel)

/-- Install a handler for every core's inbound channel. -/
def installHandler (pf : Platform σ) (mb : Mailbox) (handler : Handler) : Action σ Unit :=
  (mb.notifier pf).installAll handler

/-- The uninterrupted outbound channel of the running core. -/
def outboundChannel (pf : Platform σ) : Action σ Nat := do
  let core ← pf.runningCore
  Action.ofExcept (atomicIndex core)

end Mailbox

end BpmpMailbox
