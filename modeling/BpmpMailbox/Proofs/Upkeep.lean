import BpmpMailbox.Proofs.Custody
import BpmpMailbox.Script.Session

/-!
# What using a mailbox leaves alone

Between bring-up and take-down a mailbox is used: requests are sent and
collected, the firmware's requests are answered, handlers are installed and
called, and the firmware does its part. None of this hands a region out or
takes one back, and none of it reaches a region outside the mailboxes that are
in use.

`Steady` says what a property has to survive for that to be enough: events
other than those of mapping, and changes of the chip outside its count of
regions. Every operation, with whatever arguments and in whatever state,
maintains a steady property, also when it is refused or ends in a fault. The
proofs follow the operations line by line and have no other content, so an
operation that changes needs no more than its own few lines here.

A `Lasting` property survives less: it may depend on the handlers installed and
the doorbells rung as well. It is maintained by every operation that does
without doorbells, and that is all that its name promises.

Handlers are the one way in which an operation of the firmware leads to others.
What they ask of a mailbox is listed in `Mailbox.Serves`, so that the argument
about nested doorbells is made once, for any property.

## Main definitions

* `Mailbox.Serves`: What handlers do with a mailbox maintains a property.
* `Soc.SameBooks`, `Soc.SameBooksAndBells`: Two chips with the same count of regions, and also with
  the same handlers and rings.
* `Lasting`: A property of a chip whose doorbells are left alone.
* `Steady`: A property of a chip in use.

## Theorems

* `Soc.fire_maintains`: A doorbell maintains what the mailboxes of the handlers maintain.
* `Lasting.bus`: Accesses to regions in use.
* `Lasting.chipStep`, `Lasting.mailboxStep`: Every step that does without doorbells.
* `Steady.send`, `Steady.respond`: The operations of a mailbox that use them.
* `Steady.chipStep`, `Steady.mailboxStep`: Every step between bring-up and take-down.
-/

namespace BpmpMailbox

/-- The steps of a mailbox that ring a doorbell or install a handler. -/
def Script.MailboxStep.usesDoorbells : Script.MailboxStep → Bool
  | .send .. | .answer .. | .ring .. | .ringLine .. | .installHandler .. => true
  | _ => false

section Buses

variable {σ : Type} {P : World σ → Prop} {b : Bus σ}

namespace Semaphore

theorem field?_maintains (hb : b.ReadsMaintain P) (channel : Nat) :
    Maintains P ((⟨b⟩ : Semaphore σ).field? channel) :=
  .ite (.bind (hb.read _) fun _ => .pure) .pure

theorem state?_maintains (hb : b.ReadsMaintain P) (channel : Nat) :
    Maintains P ((⟨b⟩ : Semaphore σ).state? channel) :=
  .bind (field?_maintains hb channel) fun _ => .pure

theorem inState_maintains (hb : b.ReadsMaintain P) (channel : Nat) (state : ChannelState) :
    Maintains P ((⟨b⟩ : Semaphore σ).inState channel state) :=
  .bind (field?_maintains hb channel) fun _ => .pure

variable (hb : b.Maintains P) (hlog : ∀ r, Maintains P (log r : Action σ Unit))

include hb

theorem setBits_maintains (channel : Nat) (bits : Word) :
    Maintains P ((⟨b⟩ : Semaphore σ).setBits channel bits) :=
  .ite (hb.write _ _) .fault

theorem clearBits_maintains (channel : Nat) (bits : Word) :
    Maintains P ((⟨b⟩ : Semaphore σ).clearBits channel bits) :=
  .ite (hb.write _ _) .fault

include hlog

theorem signal_maintains (channel : Nat) : Maintains P ((⟨b⟩ : Semaphore σ).signal channel) :=
  .ite (.bind (hlog _) fun _ => clearBits_maintains hb _ _) (hlog _)

theorem release_maintains (channel : Nat) : Maintains P ((⟨b⟩ : Semaphore σ).release channel) :=
  .ite (.bind (state?_maintains hb.toReadsMaintain channel) fun _ =>
    .ite (.bind (hlog _) fun _ => clearBits_maintains hb _ _) .fault) (hlog _)

theorem acknowledge_maintains (channel : Nat) (flags : MessageFlags) :
    Maintains P ((⟨b⟩ : Semaphore σ).acknowledge channel flags) :=
  .ite (.bind (hlog _) fun _ => .bind (setBits_maintains hb _ _) fun _ =>
    .ite .pure (release_maintains hb hlog channel)) (hlog _)

theorem step_maintains (step : Script.SemaphoreStep) : Maintains P (step.run ⟨b⟩) := by
  cases step with
  | status => exact .bind (hb.read _) fun _ => .pure
  | state channel => exact .bind (state?_maintains hb.toReadsMaintain channel) fun _ => .pure
  | query channel =>
      have hquery := inState_maintains hb.toReadsMaintain channel
      exact .bind (hquery _) fun _ => .bind (hquery _) fun _ => .bind (hquery _) fun _ => .pure
  | signal channel => exact .bind (signal_maintains hb hlog channel) fun _ => .pure
  | ack channel flags => exact .bind (acknowledge_maintains hb hlog channel flags) fun _ => .pure
  | free channel => exact .bind (release_maintains hb hlog channel) fun _ => .pure

end Semaphore

namespace ChannelArea

theorem flags_maintains (hb : b.ReadsMaintain P) : Maintains P (⟨b⟩ : ChannelArea σ).flags :=
  .bind (hb.read _) fun _ => .pure

theorem readPayload_maintains (hb : b.ReadsMaintain P) (buffer : List Byte) :
    Maintains P ((⟨b⟩ : ChannelArea σ).readPayload buffer) :=
  .bind (hb.readBytes _ _) fun _ => .pure

theorem writePayload_maintains (hb : b.Maintains P) (data : List Byte) :
    Maintains P ((⟨b⟩ : ChannelArea σ).writePayload data) :=
  .ite (hb.writeBytes _ _) .refuse

theorem step_maintains (hb : b.Maintains P) (step : Script.AreaStep) :
    Maintains P (step.run ⟨b⟩) := by
  cases step with
  | code => exact .bind (hb.read _) fun _ => .pure
  | setCode code => exact .bind (hb.write _ _) fun _ => .pure
  | flags =>
      have hflags := flags_maintains hb.toReadsMaintain
      exact .bind hflags fun _ => .bind hflags fun _ => .pure
  | setFlags flags => exact .bind (hb.write _ _) fun _ => .pure
  | write data => exact .bind (writePayload_maintains hb data) fun _ => .pure
  | read buffer => exact .bind (readPayload_maintains hb.toReadsMaintain buffer) fun _ => .pure

end ChannelArea

end Buses

theorem Soc.dramLoad_maintains {P : World Soc → Prop} (start count : Nat) :
    Maintains P (Soc.dramLoad start count) :=
  .bind .hardware fun _ => .ite .pure .fault

/-- A read of a region does no more than take note of the access. -/
theorem Soc.bus_readsMaintain {P : World Soc → Prop} {region : Region}
    (hnote : ∀ access, Maintains P (note (.call (.access region access)) : Action Soc Unit)) :
    (Soc.platform.bus region).ReadsMaintain P where
  read addr := by
    refine .bind (hnote _) fun _ => ?_
    simp only [Soc.regionBus]
    split
    · exact .bind .hardware fun _ => .pure
    · exact .bind .hardware fun _ => .pure
    · exact .bind (.bind .ofExcept fun _ => Soc.dramLoad_maintains _ _) fun _ => .pure
  readBytes addr count :=
    .bind (hnote _) fun _ => .bind .ofExcept fun _ => Soc.dramLoad_maintains _ _

/-- What handlers do with a mailbox maintains a property. -/
structure Mailbox.Serves (mb : Mailbox) (P : World Soc → Prop) : Prop where
  semaphore : (Soc.platform.bus mb.semaphoreRegion).ReadsMaintain P
  window : ∀ region ∈ mb.areas.windows, (Soc.platform.bus region).ReadsMaintain P
  send : ∀ channel code flags payload, Maintains P (mb.send Soc.platform channel code flags payload)
  respond : ∀ channel code data, Maintains P (mb.respond Soc.platform channel code data)

section Handlers

variable {P : World Soc → Prop}

theorem Mailbox.Serves.area_ends {mb : Mailbox} (h : mb.Serves P) (channel : Nat) :
    Ends P (mb.area Soc.platform channel) (fun area w => area.window.ReadsMaintain P ∧ P w)
      (fun _ => P) := by
  unfold Mailbox.area
  split
  · rename_i window hwindow
    exact Ends.pure fun _ hw => ⟨h.window _ (List.mem_of_getElem? hwindow), hw⟩
  · exact Ends.refuse fun _ hw => hw

namespace Handler

theorem outcomeOf_maintains (done : Outcome) {act : Action Soc Unit} (hact : Maintains P act) :
    Maintains P (outcomeOf done act) := by
  refine .bind (.attempt hact) fun result => ?_
  cases result with
  | ok u => exact .pure
  | error e => exact .pure

theorem answer_maintains {mb : Mailbox} (h : mb.Serves P) (delta : Code) (size channel : Nat) :
    Maintains P (answer mb delta size channel) := by
  -- Of an area that was found only this is needed: its reads maintain the property.
  have hfound : Ends P (attempt (mb.area Soc.platform channel))
      (fun found w => match found with
        | .ok area => area.window.ReadsMaintain P ∧ P w
        | .error _ => P w) (fun _ => P) :=
    Ends.attempt (h.area_ends channel) (fun _ _ hw => hw) fun _ _ hw => hw
  refine .bind (Semaphore.inState_maintains h.semaphore channel _) fun waiting => ?_
  refine .ite (Ends.bind hfound fun found => ?_) .pure
  cases found with
  | error e => exact Maintains.pure
  | ok area =>
      refine Ends.assume fun harea => ?_
      refine Maintains.bind (ChannelArea.readPayload_maintains harea _) fun _ => ?_
      exact Maintains.bind (harea.read _) fun _ => outcomeOf_maintains _ (h.respond _ _ _)

theorem act_maintains {mb : Mailbox} (h : mb.Serves P) (reaction : Reaction) (channel : Nat) :
    Maintains P (act reaction mb channel) := by
  cases reaction with
  | record => exact .pure
  | send target code => exact outcomeOf_maintains _ (h.send _ _ _ _)
  | echo delta size => exact answer_maintains h delta size channel
  | chain delta size => exact answer_maintains h delta size channel

end Handler

variable {mailbox? : Nat → Option Mailbox}
  (hmailboxes : ∀ number mb, mailbox? number = some mb → mb.Serves P)
  (hhandled : ∀ handler channel outcome,
    Maintains P (note (.handled handler channel outcome) : Action Soc Unit))

include hmailboxes hhandled

theorem Handler.react_maintains (handler : Handler) (channel : Nat) :
    Maintains P (handler.react mailbox? channel) := by
  unfold Handler.react
  split
  · exact Maintains.bind .pure fun _ => hhandled _ _ _
  · cases hmb : handler.mailbox.bind mailbox? with
    | none => exact Maintains.bind .pure fun _ => hhandled _ _ _
    | some mb =>
        -- The mailbox is one of those in use, because the handler found it.
        rcases Option.bind_eq_some_iff.mp hmb with ⟨number, -, hnumber⟩
        exact Maintains.bind (Handler.act_maintains (hmailboxes number mb hnumber) _ channel)
          fun _ => hhandled _ _ _

theorem Soc.fire_maintains (hlog : ∀ r, Maintains P (log r : Action Soc Unit)) (core : Nat) :
    Maintains P (Soc.fire mailbox? core) := by
  -- By induction on the calls that may still be nested.
  have hnested : ∀ depth core, Maintains P (Soc.fireNested mailbox? depth core) := by
    intro depth
    induction depth with
    | zero => exact fun _ => .fault
    | succ depth ih =>
        intro core
        refine .bind .hardware fun s => ?_
        split
        · exact .bind (hlog _) fun _ => .pure
        · refine .bind (Handler.react_maintains hmailboxes hhandled _ _) fun _ => ?_
          split
          · exact .bind (ih _) fun _ => .pure
          · exact .pure
  exact hnested _ core

end Handlers

/-- Two chips that have handed out, and got back, the same number of regions. -/
def Soc.SameBooks (s t : Soc) : Prop :=
  s.liveRegions = t.liveRegions ∧ s.handouts = t.handouts

/-- Two chips with the same books, the same handlers, and the same doorbells rung. -/
structure Soc.SameBooksAndBells (s t : Soc) : Prop where
  books : s.SameBooks t
  handlers : s.handlers = t.handlers
  rings : s.rings = t.rings

theorem Soc.sameBooksAndBells_discoveryWrite (s : Soc) (addr : Nat) (value : Word) :
    (s.discoveryWrite addr value).SameBooksAndBells s := by
  unfold discoveryWrite
  split <;> exact ⟨⟨rfl, rfl⟩, rfl, rfl⟩

/-- A property that survives whatever leaves the books and the doorbells alone
    and touches none but some regions. -/
structure Lasting (mine : Region → Prop) (P : World Soc → Prop) : Prop where
  noted : ∀ {w : World Soc} (e : Event), e.Within mine → P w → P (w.moved w.hardware [e])
  changed : ∀ {w : World Soc} (s : Soc), s.SameBooksAndBells w.hardware → P w → P (w.moved s [])

namespace Lasting

variable {mine : Region → Prop} {P : World Soc → Prop} (h : Lasting mine P)

include h

theorem logged (r : LogRecord) : Maintains P (log r : Action Soc Unit) :=
  Ends.log fun _ hw => h.noted _ trivial hw

theorem call {e : Event} (he : e.Within mine) : Maintains P (note e : Action Soc Unit) :=
  Ends.note fun _ hw => h.noted e he hw

theorem change {f : Soc → Soc} (hf : ∀ s, (f s).SameBooksAndBells s) :
    Maintains P (setHardware f) :=
  Ends.setHardware fun w hw => h.changed _ (hf w.hardware) hw

theorem dramStore (start : Nat) (data : List Byte) : Maintains P (Soc.dramStore start data) :=
  .ite (h.change fun _ => ⟨⟨rfl, rfl⟩, rfl, rfl⟩) .fault

theorem bus {region : Region} (hmine : mine region) : (Soc.platform.bus region).Maintains P where
  toReadsMaintain := Soc.bus_readsMaintain fun _ => h.call hmine
  write addr value := by
    refine .bind (h.call hmine) fun _ => ?_
    simp only [Soc.regionBus]
    split
    · exact h.change fun s => s.sameBooksAndBells_discoveryWrite addr value
    · refine .ite (h.change fun _ => ⟨⟨rfl, rfl⟩, rfl, rfl⟩)
        (.ite (h.change fun _ => ⟨⟨rfl, rfl⟩, rfl, rfl⟩) ?_)
      exact h.logged _
    · exact .bind .ofExcept fun _ => h.dramStore _ _
  writeBytes addr data :=
    .bind (h.call hmine) fun _ => .bind .ofExcept fun _ => h.dramStore _ _

theorem runningCore : Maintains P Soc.platform.runningCore :=
  .bind (h.call trivial) fun _ => .bind .hardware fun _ => .pure

section Mailboxes

variable {mb : Mailbox} (hmb : ∀ region ∈ mb.regions, mine region)

include hmb

theorem semaphore : (Soc.platform.bus mb.semaphoreRegion).Maintains P :=
  h.bus (hmb _ List.mem_cons_self)

/-- Of an area that was granted only this is needed: its accesses maintain the property. -/
theorem area (channel : Nat) :
    Ends P (mb.area Soc.platform channel) (fun area w => area.window.Maintains P ∧ P w)
      (fun _ => P) := by
  unfold Mailbox.area
  split
  · rename_i window hwindow
    have hmem := List.mem_of_getElem? hwindow
    exact Ends.pure fun _ hw => ⟨h.bus (hmb _ (List.mem_cons_of_mem _ hmem)), hw⟩
  · exact Ends.refuse fun _ hw => hw

theorem outboundArea (channel : Nat) :
    Ends P (mb.outboundArea Soc.platform channel) (fun area w => area.window.Maintains P ∧ P w)
      (fun _ => P) := by
  unfold Mailbox.outboundArea
  split
  · exact Ends.ite (fun _ => h.area hmb channel) fun _ => Ends.refuse fun _ hw => hw
  · exact Ends.refuse fun _ hw => hw

theorem stateOf (channel : Nat) : Maintains P (mb.stateOf Soc.platform channel) := by
  have hstate := Semaphore.state?_maintains (h.semaphore hmb).toReadsMaintain channel
  refine .bind hstate fun state? => ?_
  cases state? with
  | some state => exact .pure
  | none => exact .refuse

theorem requireState (channel : Nat) (granted : ChannelState) :
    Maintains P (mb.requireState Soc.platform channel granted) :=
  .bind (h.stateOf hmb channel) fun _ => .ite .pure .refuse

theorem collect (channel : Nat) (buffer : List Byte) :
    Maintains P (mb.collect Soc.platform channel buffer) := by
  refine Ends.bind (h.outboundArea hmb channel) fun area => Ends.assume fun harea => ?_
  refine .bind (h.requireState hmb channel _) fun _ => .bind (harea.read _) fun _ => ?_
  refine .bind (ChannelArea.readPayload_maintains harea.toReadsMaintain buffer) fun _ => ?_
  exact .bind (Semaphore.release_maintains (h.semaphore hmb) h.logged channel) fun _ =>
    Maintains.pure

end Mailboxes

theorem writeMessage (channel : Nat) (code : Code) (flags : MessageFlags) (data : List Byte) :
    Maintains P (Firmware.writeMessage channel code flags data) :=
  .ite (.bind .hardware fun _ => .bind .ofExcept fun _ => .bind (h.dramStore _ _) fun _ =>
    .bind (h.dramStore _ _) fun _ => h.dramStore _ _) .fault

omit h in
theorem message (channel : Nat) : Maintains P (Firmware.message channel) :=
  .bind .hardware fun _ => .bind .ofExcept fun _ => .bind (Soc.dramLoad_maintains _ _) fun _ =>
    .pure

/-- Every step of the chip or its firmware, if doorbells maintain the property. -/
theorem chipStep {mailbox? : Nat → Option Mailbox}
    (hfire : ∀ core, Maintains P (Soc.fire mailbox? core)) (step : Script.ChipStep) :
    Maintains P (step.run mailbox?) := by
  cases step with
  | boot => exact .bind (h.change fun _ => ⟨⟨rfl, rfl⟩, rfl, rfl⟩) fun _ => .pure
  | setAddress channel addr =>
      -- The chip that is put in place differs from the one looked at by an address.
      refine Ends.hardware_bind fun s => Ends.bind
        (M := fun s' w => s'.SameBooksAndBells w.hardware ∧ P w)
        (Ends.ofExcept ?_ fun _ _ _ hw => hw.1) fun s' => Ends.bind (M := fun _ => P)
          (Ends.setHardware fun w hw => h.changed s' hw.1 hw.2) fun _ => Maintains.pure
      rintro s' hs' w ⟨hw, rfl⟩
      unfold Soc.setAddress at hs'
      split at hs'
      · injection hs' with hs'
        exact ⟨by rw [← hs']; exact ⟨⟨rfl, rfl⟩, rfl, rfl⟩, hw⟩
      · cases hs'
  | setCpu core => exact .bind (h.change fun _ => ⟨⟨rfl, rfl⟩, rfl, rfl⟩) fun _ => .pure
  | state channel => exact .bind .hardware fun _ => .bind .ofExcept fun _ => .pure
  | allRings => exact .bind .hardware fun _ => .pure
  | registered => exact .bind .hardware fun _ => .pure
  | bound core => exact .bind .hardware fun _ => .pure
  | fire core => exact .bind (hfire core) fun _ => .pure
  | inject faults => exact .bind (h.change fun _ => ⟨⟨rfl, rfl⟩, rfl, rfl⟩) fun _ => .pure
  | queue channel => exact .bind (h.change fun _ => ⟨⟨rfl, rfl⟩, rfl, rfl⟩) fun _ => .pure
  | complete channel code data =>
      exact .bind (.bind (message channel) fun _ => .bind (h.writeMessage _ _ _ _) fun _ =>
        h.change fun _ => ⟨⟨rfl, rfl⟩, rfl, rfl⟩) fun _ => .pure
  | post core code flags data =>
      exact .bind (.bind .ofExcept fun _ => .bind (h.writeMessage _ _ _ _) fun _ =>
        .bind (h.change fun _ => ⟨⟨rfl, rfl⟩, rfl, rfl⟩) fun _ => hfire core) fun _ => .pure
  | release channel => exact .bind (h.change fun _ => ⟨⟨rfl, rfl⟩, rfl, rfl⟩) fun _ => .pure
  | message channel => exact .bind (message channel) fun _ => .pure

/-- Every step of a mailbox in use, if those that use doorbells maintain the property. -/
theorem mailboxStep {c : Script.Connection} (hmb : ∀ region ∈ c.mailbox.regions, mine region)
    {step : Script.MailboxStep} (hbells : step.usesDoorbells = true → Maintains P (step.run c)) :
    Maintains P (step.run c) := by
  cases step with
  | send | answer | ring | ringLine | installHandler => exact hbells rfl
  | take channel buffer => exact .bind (h.collect hmb _ _) fun _ => .pure
  | semaphore step => exact Semaphore.step_maintains (h.semaphore hmb) h.logged step
  | outboundChannel => exact .bind (.bind h.runningCore fun _ => .ofExcept) fun _ => .pure
  | threadChannel slot => exact .bind .ofExcept fun _ => .pure
  | threadSlot channel => exact .pure
  | area channel step =>
      exact Ends.bind (h.area hmb channel) fun area => Ends.assume fun harea =>
        ChannelArea.step_maintains harea step

end Lasting

/-- A property that survives whatever leaves the books alone and touches none
    but some regions. -/
structure Steady (mine : Region → Prop) (P : World Soc → Prop) : Prop where
  noted : ∀ {w : World Soc} (e : Event), e.Within mine → P w → P (w.moved w.hardware [e])
  changed : ∀ {w : World Soc} (s : Soc), s.SameBooks w.hardware → P w → P (w.moved s [])

namespace Steady

variable {mine : Region → Prop} {P : World Soc → Prop} (h : Steady mine P)

include h

/-- What survives more also survives less. -/
theorem lasting : Lasting mine P := ⟨h.noted, fun s hs => h.changed s hs.books⟩

theorem change {f : Soc → Soc} (hf : ∀ s, (f s).SameBooks s) :
    Maintains P (setHardware f) :=
  Ends.setHardware fun w hw => h.changed _ (hf w.hardware) hw

theorem ring (line : Word) : Maintains P (Soc.platform.ring line) :=
  .bind (h.lasting.call trivial) fun _ => h.change fun _ => ⟨rfl, rfl⟩

theorem register (core : Nat) (binding : Binding) :
    Maintains P (Soc.platform.register core binding) := by
  refine .bind (h.lasting.call trivial) fun _ => .bind .hardware fun s => ?_
  split
  · exact .pure
  · exact .bind (h.change fun _ => ⟨rfl, rfl⟩) fun _ => .pure

section Mailboxes

variable {mb : Mailbox} (hmb : ∀ region ∈ mb.regions, mine region)

theorem notifierRing (channel : Nat) : Maintains P ((mb.notifier Soc.platform).ring channel) :=
  .bind (h.lasting.logged _) fun _ => h.ring _

theorem installHandler (handler : Handler) :
    Maintains P (mb.installHandler Soc.platform handler) := by
  have hcores : ∀ cores, Maintains P ((mb.notifier Soc.platform).installCores handler cores) := by
    intro cores
    induction cores with
    | nil => exact .pure
    | cons core cores ih =>
        refine .bind .ofExcept fun _ => .bind (h.register _ _) fun answer => ?_
        cases answer with
        | error e => exact .bind (h.lasting.logged _) fun _ => .refuse
        | ok u => exact ih
  exact .bind (hcores _) fun _ => h.lasting.logged _

include hmb

theorem send (channel : Nat) (code : Code) (flags : MessageFlags) (payload : List Byte) :
    Maintains P (mb.send Soc.platform channel code flags payload) := by
  have hl := h.lasting
  refine Ends.bind (hl.outboundArea hmb channel) fun area => Ends.assume fun harea => ?_
  refine .bind (hl.requireState hmb channel _) fun _ => ?_
  refine .bind (ChannelArea.writePayload_maintains harea payload) fun _ => ?_
  refine .bind (harea.write _ _) fun _ => .bind (harea.write _ _) fun _ => ?_
  exact .bind (Semaphore.signal_maintains (hl.semaphore hmb) hl.logged channel) fun _ =>
    h.notifierRing channel

theorem respond (channel : Nat) (code : Code) (data : List Byte) :
    Maintains P (mb.respond Soc.platform channel code data) := by
  have hl := h.lasting
  have hacknowledge : ∀ flags, Maintains P (do
      (mb.semaphore Soc.platform).acknowledge channel flags
      if flags.contains .ringDoorbell then (mb.notifier Soc.platform).ring channel
      else pure ()) := fun flags =>
    .bind (Semaphore.acknowledge_maintains (hl.semaphore hmb) hl.logged channel flags) fun _ =>
      .ite (h.notifierRing channel) .pure
  refine .ite (.ite ?_ (.bind (hl.logged _) fun _ => .refuse))
    (.bind (hl.logged _) fun _ => .refuse)
  refine Ends.bind (hl.area hmb channel) fun area => Ends.assume fun harea => ?_
  refine .bind (ChannelArea.writePayload_maintains harea data) fun _ => ?_
  refine .bind (harea.write _ _) fun _ => ?_
  -- The answer ends in the same way however the flags were come by.
  have hend : ∀ flags, Maintains P (do
      let state ← mb.stateOf Soc.platform channel
      if state = .signalled ∨ state = .queued then pure ()
      else log (.responseUnasked channel state)
      (mb.semaphore Soc.platform).acknowledge channel flags
      if flags.contains .ringDoorbell then (mb.notifier Soc.platform).ring channel
      else pure ()) := fun flags =>
    .bind (hl.stateOf hmb channel) fun state =>
      Maintains.ite (hacknowledge flags) (.bind (hl.logged _) fun _ => hacknowledge flags)
  split
  · rename_i window hwindow
    have hmem := List.mem_of_getElem? hwindow
    have hwindow := hl.bus (hmb _ (List.mem_cons_of_mem _ hmem))
    exact Maintains.bind (ChannelArea.flags_maintains hwindow.toReadsMaintain) hend
  · exact Maintains.bind Maintains.refuse hend

theorem serves : mb.Serves P where
  semaphore := (h.lasting.semaphore hmb).toReadsMaintain
  window region hmem := (h.lasting.bus (hmb region (List.mem_cons_of_mem _ hmem))).toReadsMaintain
  send := h.send hmb
  respond := h.respond hmb

end Mailboxes

/-- Every step of the chip or its firmware, doorbells included. -/
theorem chipStep {mailbox? : Nat → Option Mailbox}
    (hmailboxes : ∀ number mb, mailbox? number = some mb → ∀ region ∈ mb.regions, mine region)
    (step : Script.ChipStep) : Maintains P (step.run mailbox?) :=
  h.lasting.chipStep (Soc.fire_maintains
    (fun number mb hmb => h.serves (hmailboxes number mb hmb))
    (fun handler channel outcome =>
      h.lasting.call (e := .handled handler channel outcome) trivial)
    h.lasting.logged) step

/-- Every step of a mailbox in use. -/
theorem mailboxStep {c : Script.Connection} (hmb : ∀ region ∈ c.mailbox.regions, mine region)
    (step : Script.MailboxStep) : Maintains P (step.run c) := by
  refine h.lasting.mailboxStep hmb fun hbells => ?_
  cases step with
  | send channel code flags payload => exact .bind (h.send hmb _ _ _ _) fun _ => .pure
  | answer channel code data => exact .bind (h.respond hmb _ _ _) fun _ => .pure
  | ring channel => exact .bind (h.notifierRing channel) fun _ => .pure
  | ringLine line => exact .bind (h.ring line) fun _ => .pure
  | installHandler reaction => exact .bind (h.installHandler _) fun _ => .pure
  | take | semaphore | outboundChannel | threadChannel | threadSlot | area => cases hbells

end Steady

end BpmpMailbox
