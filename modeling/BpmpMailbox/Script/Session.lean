import BpmpMailbox.Configuration.Document
import BpmpMailbox.Script.Step

/-!
# Sessions on the simulated chip

A session drives mailboxes on one simulated chip, with the firmware's steps in
between. Mailboxes and hand-mapped regions are kept in numbered slots. Putting
something into a slot drops what was there; dropping is not taking down, so
what the old mailbox had mapped stays mapped.

Every connection gets a number, and a handler refers to its mailbox by that
number. When the mailbox has left its slot, the number finds nothing any more,
whatever has taken its place.

## Main definitions

* `Slots`: Things by slot number.
* `Session`: The chip, the mailboxes and the regions.
* `Failure`: Why a step has no answer.
* `ChipStep`, `MailboxStep`, `RegionStep`, `SessionStep`: The steps.
* `SessionStep.run`: What a step does.
* `runSession`: A whole session.
-/

namespace BpmpMailbox

namespace Script

/-- Things by slot number. -/
structure Slots (α : Type) where
  entries : List (Nat × α)

namespace Slots

variable {α : Type}

/-- What is in a slot. -/
def get? (s : Slots α) (slot : Nat) : Option α := s.entries.lookup slot

/-- The slots without what was in one of them. -/
def erase (s : Slots α) (slot : Nat) : Slots α := ⟨s.entries.filter fun e => e.1 != slot⟩

/-- The slots with something put into one of them. -/
def insert (s : Slots α) (slot : Nat) (a : α) : Slots α := ⟨(slot, a) :: (s.erase slot).entries⟩

end Slots

/-- A mailbox with the number of its connection. -/
structure Connection where
  number : Nat
  mailbox : Mailbox

/-- The chip with the mailboxes and regions in their slots. -/
structure Session where
  soc : Soc
  mailboxes : Slots Connection
  regions : Slots Region
  /-- The number of connections made so far. -/
  connections : Nat

/-- Why a step has no answer. -/
inductive Failure where
  | mail (error : Refusal)
  | doorbell (error : DoorbellError)
  | config (error : ConfigurationError)
  | fault (fault : Fault)
  /-- The mailbox slot is empty. -/
  | noMailbox
  /-- The region slot is empty. -/
  | noRegion

/-- The failure that a stop amounts to. -/
def Failure.ofStop : Stop → Failure
  | .refused e => .mail e
  | .fault f => .fault f

namespace Session

/-- The first slot into which the handshake by hand puts its windows. -/
def windowSlots : Nat := 100

/-- A session with nothing in its slots. -/
def start (soc : Soc) : Session := ⟨soc, ⟨[]⟩, ⟨[]⟩, 0⟩

/-- The mailbox with a connection number, if it is still in a slot. -/
def mailbox? (s : Session) (number : Nat) : Option Mailbox :=
  (s.mailboxes.entries.find? fun e => e.2.number == number).map (·.2.mailbox)

/-- Carry out an action of the chip within a session. -/
def onSoc {α : Type} (act : Action Soc α) : Action Session α := fun w =>
  match act ⟨w.hardware.soc, w.journal⟩ with
  | .ok a w' => .ok a ⟨{ w.hardware with soc := w'.hardware }, w'.journal⟩
  | .error e w' => .error e ⟨{ w.hardware with soc := w'.hardware }, w'.journal⟩

end Session

/-- The steps that go to the chip or its firmware directly. -/
inductive ChipStep where
  | boot
  | setAddress (channel : Nat) (addr : Word)
  | setCpu (core : Nat)
  | state (channel : Nat)
  | allRings
  | registered
  | bound (core : Nat)
  | fire (core : Nat)
  | inject (faults : Injection)
  | queue (channel : Nat)
  | complete (channel : Nat) (code : Code) (data : List Byte)
  | post (core : Nat) (code : Code) (flags : MessageFlags) (data : List Byte)
  | release (channel : Nat)
  | message (channel : Nat)

/-- Carry out a step of the chip; `mailbox?` knows the mailboxes that handlers
    may refer to. -/
def ChipStep.run (mailbox? : Nat → Option Mailbox) : ChipStep → Action Soc Reply
  | .boot => do
    setHardware (·.boot)
    pure .done
  | .setAddress channel addr => do
    let s ← hardware
    let s' ← Action.ofExcept (s.setAddress channel addr)
    setHardware fun _ => s'
    pure .done
  | .setCpu core => do
    setHardware fun s => { s with cpu := core }
    pure .done
  | .state channel => do
    let s ← hardware
    let value ← Action.ofExcept (s.state channel)
    pure (.state? (some value))
  | .allRings => do
    let s ← hardware
    pure (.words s.rings)
  | .registered => do
    let s ← hardware
    pure (.sizes s.registeredCores)
  | .bound core => do
    let s ← hardware
    pure (.size? ((s.binding? core).map (·.channel)))
  | .fire core => do
    let taken ← Soc.fire mailbox? core
    pure (.flag taken)
  | .inject faults => do
    setHardware fun s => { s with faults := faults }
    pure .done
  | .queue channel => do
    Firmware.queue channel
    pure .done
  | .complete channel code data => do
    Firmware.complete channel code data
    pure .done
  | .post core code flags data => do
    let taken ← Firmware.post mailbox? core code flags data
    pure (.flag taken)
  | .release channel => do
    Firmware.release channel
    pure .done
  | .message channel => do
    let value ← Firmware.message channel
    pure (.message value)

/-- The steps that go to a mailbox. -/
inductive MailboxStep where
  | send (channel : Nat) (code : Code) (flags : MessageFlags) (payload : List Byte)
  | take (channel : Nat) (buffer : List Byte)
  | answer (channel : Nat) (code : Code) (data : List Byte)
  | semaphore (step : SemaphoreStep)
  | ring (channel : Nat)
  | ringLine (line : Word)
  | outboundChannel
  | threadChannel (slot : Nat)
  | threadSlot (channel : Nat)
  | area (channel : Nat) (step : AreaStep)
  | installHandler (reaction : Reaction)

/-- Carry out a step of a mailbox with a connection number. -/
def MailboxStep.run (c : Connection) : MailboxStep → Action Soc Reply
  | .send channel code flags payload => do
    c.mailbox.send Soc.platform channel code flags payload
    pure .done
  | .take channel buffer => do
    let (code, count, buffer) ← c.mailbox.collect Soc.platform channel buffer
    pure (.response code count buffer)
  | .answer channel code data => do
    c.mailbox.respond Soc.platform channel code data
    pure .done
  | .semaphore step => step.run (c.mailbox.semaphore Soc.platform)
  | .ring channel => do
    (c.mailbox.notifier Soc.platform).ring channel
    pure .done
  | .ringLine line => do
    Soc.platform.ring line
    pure .done
  | .outboundChannel => do
    let channel ← Mailbox.outboundChannel Soc.platform
    pure (.size channel)
  | .threadChannel slot => do
    let channel ← Action.ofExcept (threadIndex slot)
    pure (.size channel)
  | .threadSlot channel => pure (.size? (threadSlot? channel))
  | .area channel step => do
    let a ← c.mailbox.area Soc.platform channel
    step.run a
  | .installHandler reaction => do
    c.mailbox.installHandler Soc.platform ⟨reaction, some c.number⟩
    pure .done

/-- The steps that go to a region mapped by hand. -/
inductive RegionStep where
  | window (step : WindowStep)
  | semaphore (step : SemaphoreStep)
  | area (step : AreaStep)
  | channelAddress (channel : Nat)

/-- Carry out a step of a region. -/
def RegionStep.run (region : Region) : RegionStep → Action Soc Reply
  | .window step => step.run (Soc.platform.bus region)
  | .semaphore step => step.run ⟨Soc.platform.bus region⟩
  | .area step => step.run ⟨Soc.platform.bus region⟩
  | .channelAddress channel => do
    let addr ← BpmpMailbox.channelAddress (Soc.platform.bus region) channel
    pure (.word addr)

/-- The steps of a session. -/
inductive SessionStep where
  | chip (step : ChipStep)
  | mailbox (slot : Nat) (step : MailboxStep)
  | region (slot : Nat) (step : RegionStep)
  | connect (slot : Nat) (config : Configuration)
  | connectText (slot : Nat) (text : String)
  | disconnect (slot : Nat)
  /-- Install a handler directly on the chip. -/
  | register (slot core channel : Nat) (reaction : Reaction)
  | mapBlock (slot index : Nat)
  | mapMemory (slot phys size : Nat)
  | unmap (slot : Nat)
  /-- The handshake over two regions mapped by hand. -/
  | handshake (discovery semaphore window : Nat)

namespace Session

/-- Bring a mailbox up and put it into a slot. -/
def connect (slot : Nat) (config : Configuration) : Action Session Reply := do
  let mb ← onSoc (Mailbox.connect Soc.platform config)
  setHardware fun s =>
    { s with
      mailboxes := s.mailboxes.insert slot ⟨s.connections, mb⟩
      connections := s.connections + 1 }
  pure (.config mb.config)

/-- Put a region into a slot if there is one, and tell whether there was. -/
def keepRegion (slot : Nat) : Option Region → Action Session Reply
  | some region => do
    setHardware fun s => { s with regions := s.regions.insert slot region }
    pure (.flag true)
  | none => pure (.flag false)

/-- Put regions into consecutive slots. -/
def keepRegions (s : Session) (slot : Nat) : List Region → Session
  | [] => s
  | region :: regions =>
    keepRegions { s with regions := s.regions.insert slot region } (slot + 1) regions

/-- Whether both views of every channel are the same window, and whether past
    the last one both are absent. -/
def viewsAgree (areas : AreaTable) : Bool :=
  let count := areas.windows.length
  (List.range count).all (fun channel =>
    (areas.inbound? channel).isSome && areas.inbound? channel == areas.outbound? channel) &&
  [count, count + 1].all fun channel =>
    (areas.inbound? channel).isNone && (areas.outbound? channel).isNone

/-- The handshake over two regions mapped by hand. The semaphore's region is
    out of its slot while the handshake runs, so a fault leaves the slot
    empty. -/
def handshakeByHand (discovery semaphore window : Nat) (regions : Region × Region) :
    Action Session Reply := do
  setHardware fun s => { s with regions := s.regions.erase semaphore }
  let resolved ← attempt <| onSoc <|
    BpmpMailbox.handshake Soc.platform.toMapping (Soc.platform.bus regions.1)
      ⟨Soc.platform.bus regions.2⟩ window
  setHardware fun s =>
    { s with regions := (s.regions.insert discovery regions.1).insert semaphore regions.2 }
  match resolved with
  | .error e => refuse e
  | .ok areas =>
    setHardware fun s => s.keepRegions windowSlots areas.windows
    pure (.windows areas.windows.length areas.windows.isEmpty (viewsAgree areas))

end Session

open Session in
/-- Carry out a step of a session. -/
def SessionStep.run : SessionStep → Action Session (Except Failure Reply)
  | .chip step => do
    let s ← hardware
    .ok <$> onSoc (step.run s.mailbox?)
  | .mailbox slot step => do
    let s ← hardware
    match s.mailboxes.get? slot with
    | none => pure (.error .noMailbox)
    | some c => .ok <$> onSoc (step.run c)
  | .region slot step => do
    let s ← hardware
    match s.regions.get? slot with
    | none => pure (.error .noRegion)
    | some found => .ok <$> onSoc (step.run found)
  | .connect slot config => .ok <$> Session.connect slot config
  | .connectText slot text =>
    match Configuration.ofText text with
    | .error e => pure (.error (.config e))
    | .ok config => .ok <$> Session.connect slot config
  | .disconnect slot => do
    let s ← hardware
    match s.mailboxes.get? slot with
    | none => pure (.error .noMailbox)
    | some c =>
      setHardware fun s => { s with mailboxes := s.mailboxes.erase slot }
      onSoc (c.mailbox.disconnect Soc.platform)
      pure (.ok .done)
  | .register slot core channel reaction => do
    let s ← hardware
    let handler : Handler := ⟨reaction, (s.mailboxes.get? slot).map (·.number)⟩
    match ← onSoc (Soc.platform.register core ⟨handler, channel⟩) with
    | .error e => pure (.error (.doorbell e))
    | .ok () => pure (.ok .done)
  | .mapBlock slot index => do
    let region? ← onSoc (Soc.platform.mapBlock index)
    .ok <$> keepRegion slot region?
  | .mapMemory slot phys size => do
    let region? ← onSoc (Soc.platform.mapMemory phys size)
    .ok <$> keepRegion slot region?
  | .unmap slot => do
    let s ← hardware
    match s.regions.get? slot with
    | none => pure (.error .noRegion)
    | some found =>
      setHardware fun s => { s with regions := s.regions.erase slot }
      onSoc (Soc.platform.unmap found)
      pure (.ok .done)
  | .handshake discovery semaphore window => do
    let s ← hardware
    match s.regions.get? discovery, s.regions.get? semaphore with
    | some a, some b =>
      if discovery = semaphore then pure (.error .noRegion)
      else .ok <$> handshakeByHand discovery semaphore window (a, b)
    | _, _ => pure (.error .noRegion)

/-- Carry out the steps of a session one after the other. -/
def runSession (soc : Soc) (steps : List SessionStep) :
    List (Report Session (Except Failure Reply)) :=
  runScript (Session.start soc) (steps.map SessionStep.run)

/-- The doorbell lines rung during a step. -/
def newRings {α : Type} (r : Report Session α) : List Word :=
  r.after.soc.rings.drop r.before.soc.rings.length

end Script

end BpmpMailbox
