import BpmpMailbox.Proofs.Interrupts
import BpmpMailbox.Proofs.Upkeep

/-!
# Doorbells accounted for

A doorbell that is lost leaves the firmware asleep, and one too many wakes it
for nothing, so every ring has to have a reason. There are three: a request
that was sent, a caller who asks for a ring, and an answer to a message whose
flags ask for one. Everything else is silent, whether it succeeds or not.

The third reason is the one to look at. The flags are read after the answer has
been written around them, they may come from a request of the firmware or from
anything else that was in the area, and the answer is placed in every state of
the channel. What it comes to is settled by the flags that the channel held
before, bit by bit: the state decides about a warning and nothing else.

## Main definitions

* `Rings.Turn`: A step of the mailbox, or of the chip and its firmware.
* `Rings.flagsHeld?`: The flags that a channel holds, as its area answers.
* `Rings.Turn.rings`: Whether there is a reason to ring.
* `Rings.Answered`: What an answer comes to.
* `Rings.Turn.Accounted`: A step rings once for a reason, and not without.

## Theorems

* `Rings.Turn.silent`: Turns without a reason leave the doorbells alone.
* `Rings.Turn.accounted`: Every turn is accounted for.
* `Rings.runScript_accounted`: So is every run, and its rings are counted.
-/

namespace BpmpMailbox

open Script (Reply Report runStep runScript)

/-- The only warning of an answer is the one about the state; the rest of what
    it leaves in the journal is tracing. -/
theorem Mailbox.warnings_respondEvents (mb : Mailbox) (region : Region) (channel : Nat)
    (code : Code) (data : List Byte) (flags : MessageFlags) (state : ChannelState) :
    (Event.records (mb.respondEvents region channel code data flags state)).filter
        (·.level = .warn) =
      if state = .signalled ∨ state = .queued then [] else [.responseUnasked channel state] := by
  unfold respondEvents unaskedEvents Semaphore.acknowledgeEvents ringEvents
  split <;> split <;> split <;> rfl

namespace Rings

/-- A step of the mailbox, or of the chip and its firmware. -/
inductive Turn where
  | mailbox (step : Script.MailboxStep)
  | chip (step : Script.ChipStep)

/-- Carry out a turn; `mailbox?` knows the mailboxes that handlers may refer to. -/
def Turn.run (mailbox? : Nat → Option Mailbox) (c : Script.Connection) : Turn → Action Soc Reply
  | .mailbox step => step.run c
  | .chip step => step.run mailbox?

/-- Handlers that are installed only take note of their calls, and nobody rings
    past the mailbox. -/
def Turn.Ordinary : Turn → Prop
  | .mailbox (.ringLine _) => False
  | .mailbox (.installHandler reaction) => reaction = .record
  | _ => True

/-- The flags that a channel holds, as its area answers when it is asked. -/
def flagsHeld? (c : Script.Connection) (s : Soc) (channel : Nat) : Option MessageFlags :=
  match (runStep s ((Script.MailboxStep.area channel .flags).run c)).result with
  | .ok (.flags flags) => some flags
  | _ => none

/-- Whether there is a reason to ring: a request that was sent, an answer to a
    message that asks for it, or a caller who does. -/
def Turn.rings (c : Script.Connection) (report : Report Soc Reply) : Turn → Bool
  | .mailbox (.send ..) => report.result.isOk
  | .mailbox (.answer channel ..) =>
    report.result.isOk && (flagsHeld? c report.before channel).any (·.contains .ringDoorbell)
  | .mailbox (.ring _) => true
  | _ => false

/-- What an answer comes to that passes its checks: the flags held decide about
    everything but the warning, and the state about the warning alone. -/
structure Answered (c : Script.Connection) (channel : Nat) (flags : MessageFlags)
    (state : ChannelState) (report : Report Soc Reply) : Prop where
  held : flagsHeld? c report.before channel = some flags
  found : report.before.state channel = .ok state
  result : report.result = .ok .done
  warned : (Event.records report.events).filter (·.level = .warn) =
    if state = .signalled ∨ state = .queued then [] else [.responseUnasked channel state]
  settled : report.after.state channel = .ok flags.settled
  kept : flagsHeld? c report.after channel = some flags

/-- The turn rings the line once if there is a reason, and otherwise nothing;
    and an answer comes to what it should. -/
structure Turn.Accounted (c : Script.Connection) (line : Word) (turn : Turn)
    (report : Report Soc Reply) : Prop where
  rings : report.after.rings =
    report.before.rings ++ if turn.rings c report then [line] else []
  answer : ∀ channel code data, turn = .mailbox (.answer channel code data) →
    channel < channelCount → data.length ≤ payloadSize →
      ∃ flags state, Answered c channel flags state report

/-- The chip that a run leaves. -/
def leaves (start : Soc) (reports : List (Report Soc Reply)) : Soc :=
  (reports.getLast?.map (·.after)).getD start

/-- How many turns of a run had a reason to ring. -/
def reasons (c : Script.Connection) (turns : List Turn) (reports : List (Report Soc Reply)) : Nat :=
  (turns.zip reports).countP fun entry => entry.1.rings c entry.2

theorem leaves_cons (start : Soc) (report : Report Soc Reply) (reports : List (Report Soc Reply)) :
    leaves start (report :: reports) = leaves report.after reports := by
  rw [leaves, leaves, List.getLast?_cons]
  cases reports.getLast? <;> rfl

theorem reasons_cons (c : Script.Connection) (turn : Turn) (turns : List Turn)
    (report : Report Soc Reply) (reports : List (Report Soc Reply)) :
    reasons c (turn :: turns) (report :: reports) =
      reasons c turns reports + if turn.rings c report then 1 else 0 :=
  List.countP_cons

/-- The doorbells rung so far, and handlers that ring none themselves. -/
def Silent (rings : List Word) (w : World Soc) : Prop :=
  w.hardware.rings = rings ∧ w.hardware.OnlyRecords

section

variable {mailbox? : Nat → Option Mailbox} {c : Script.Connection} {rings : List Word}

theorem silent_lasting : Lasting (fun _ => True) (Silent rings) where
  noted _ _ hw := hw
  changed _ hs hw := ⟨hs.rings.trans hw.1, hw.2.of_handlers_eq hs.handlers⟩

theorem fire_silent (core : Nat) : Maintains (Silent rings) (Soc.fire mailbox? core) := by
  intro w hw
  rw [Soc.fire_run mailbox? core w hw.2]
  exact hw

theorem installHandler_silent (mb : Mailbox) {handler : Handler}
    (hrecord : handler.reaction = .record) :
    Maintains (Silent rings) (mb.installHandler Soc.platform handler) := by
  intro w hw
  have hinstalled : ∀ (count : Nat) (result : Except Stop Unit) (w' : World Soc),
      w.hardware.Installs count result → w'.hardware = w.hardware.installed handler count →
        Silent rings w' := by
    intro count result w' hinstalls hw'
    rw [Silent, hw']
    exact ⟨hw.1, hw.2.installed hrecord hinstalls.count_le⟩
  refine (mb.installHandler_ends handler w.hardware).mono (fun _ h => h) ?_ ?_ w rfl
  · rintro u w' ⟨hinstalls, hw'⟩
    exact hinstalled _ _ w' hinstalls hw'
  · rintro stop w' ⟨last, hinstalls, hw'⟩
    exact hinstalled _ _ w' hinstalls hw'

/-- Turns that never have a reason to ring. -/
def Turn.isSilent : Turn → Bool
  | .mailbox (.send ..) | .mailbox (.answer ..) | .mailbox (.ring _) => false
  | _ => true

theorem Turn.silent {turn : Turn} (hordinary : turn.Ordinary) (hsilent : turn.isSilent = true) :
    Maintains (Silent rings) (turn.run mailbox? c) := by
  cases turn with
  | chip step => exact silent_lasting.chipStep fire_silent step
  | mailbox step =>
      refine silent_lasting.mailboxStep (fun _ _ => trivial) fun hbells => ?_
      cases step with
      | installHandler reaction =>
          exact .bind (installHandler_silent c.mailbox hordinary) fun _ => .pure
      | ringLine line => exact hordinary.elim
      | send | answer | ring => cases hsilent
      | take | semaphore | outboundChannel | threadChannel | threadSlot | area => cases hbells

theorem Turn.rings_of_isSilent {turn : Turn} (hsilent : turn.isSilent = true)
    (report : Report Soc Reply) : turn.rings c report = false := by
  unfold Turn.rings
  split
  · cases hsilent
  · cases hsilent
  · cases hsilent
  · rfl

theorem Turn.accounted_of_isSilent (mailbox? : Nat → Option Mailbox) (s : Soc)
    (hrecords : s.OnlyRecords) {turn : Turn} (hordinary : turn.Ordinary)
    (hsilent : turn.isSilent = true) {line : Word} :
    turn.Accounted c line (runStep s (turn.run mailbox? c)) ∧
      (runStep s (turn.run mailbox? c)).after.OnlyRecords := by
  have hstart : Silent s.rings ⟨s, []⟩ := ⟨rfl, hrecords⟩
  have hkept : Silent s.rings (World.after ⟨s, []⟩ (turn.run mailbox? c)) :=
    (Turn.silent hordinary hsilent).after hstart
  rw [Silent, ← Script.runStep_after] at hkept
  refine ⟨⟨?_, fun channel code data heq => ?_⟩, hkept.2⟩
  · rw [Turn.rings_of_isSilent hsilent, hkept.1, runStep_before, if_neg Bool.false_ne_true,
      List.append_nil]
  · rw [heq] at hsilent
    cases hsilent

end

section Placed

variable {c : Script.Connection} {places : Fin channelCount → Nat}
  (hmb : c.mailbox.Placed places) (s : Soc)

include hmb

theorem flagsHeld?_eq (channel : Fin channelCount) :
    flagsHeld? c s channel = some ⟨s.dram.loadWord (places channel + flagsOffset)⟩ := by
  rcases hmb.window channel with ⟨region, hreg, hplace⟩
  have hrun : (Script.MailboxStep.area channel .flags).run c ⟨s, []⟩ = _ :=
    (bind_ok (Mailbox.area_run hreg ⟨s, []⟩)).trans
      ((bind_ok (ChannelArea.flags_run hplace _)).trans
        (bind_ok (ChannelArea.flags_run hplace _)))
  rw [flagsHeld?, runStep_ok hrun]
  rfl

theorem send_accounted (hrecords : s.OnlyRecords) (channel : Nat) (code : Code)
    (flags : MessageFlags) (payload : List Byte) :
    let report := runStep s ((Script.MailboxStep.send channel code flags payload).run c)
    (Turn.mailbox (.send channel code flags payload)).Accounted c c.mailbox.config.doorbellLine
      report ∧ report.after.OnlyRecords := by
  intro report
  rcases hmb.send_cases channel code flags payload ⟨s, []⟩ with
    ⟨e, events, hsend⟩ | ⟨hlt, events, hlen, hsend⟩
  · have hstep : report = _ := runStep_error (bind_error hsend)
    rw [hstep]
    exact ⟨⟨(List.append_nil _).symm, fun _ _ _ h => nomatch h⟩, hrecords⟩
  · have hstep : report = _ := runStep_ok (bind_pure_ok hsend)
    rw [hstep]
    exact ⟨⟨rfl, fun _ _ _ h => nomatch h⟩, hrecords⟩

theorem answer_accounted (hrecords : s.OnlyRecords) (channel : Nat) (code : Code)
    (data : List Byte) :
    let report := runStep s ((Script.MailboxStep.answer channel code data).run c)
    (Turn.mailbox (.answer channel code data)).Accounted c c.mailbox.config.doorbellLine report ∧
      report.after.OnlyRecords := by
  intro report
  rcases hmb.respond_cases channel code data ⟨s, []⟩ with
    ⟨e, events, hrespond, hchecks⟩ | ⟨hlt, region, hlen, hrespond⟩
  · have hstep : report = _ := runStep_error (bind_error hrespond)
    rw [hstep]
    refine ⟨⟨(List.append_nil _).symm, fun channel code data heq hlt hlen => ?_⟩, hrecords⟩
    cases heq
    exact (hchecks ⟨hlt, hlen⟩).elim
  · have hstep : report = _ := runStep_ok (bind_pure_ok hrespond)
    have hheld := flagsHeld?_eq hmb s ⟨channel, hlt⟩
    rcases hmb.window ⟨channel, hlt⟩ with ⟨_, -, hplace⟩
    have hrecord := Soc.recordAt_responded s ⟨channel, hlt⟩ hplace.inside code
      (s.recordAt channel (places ⟨channel, hlt⟩) hplace.inside).flags hlen
      c.mailbox.config.doorbellLine
    rw [hstep]
    refine ⟨⟨?_, fun channel code data heq hlt hlen => ?_⟩, ?_⟩
    · rw [Turn.rings, hheld]
      exact Soc.rings_responded ..
    · cases heq
      refine ⟨_, _, hheld, Soc.state_eq_ok s channel hlt, rfl, ?_, ?_, ?_⟩
      · exact Mailbox.warnings_respondEvents ..
      · rw [Soc.state_eq_ok _ channel hlt]
        exact congrArg (fun r => Except.ok r.state) hrecord
      · -- The flags are where they were, between the code and the payload just written.
        rw [flagsHeld?_eq hmb _ ⟨channel, hlt⟩]
        exact congrArg (fun r => some r.flags) hrecord
    · exact hrecords.of_handlers_eq (Soc.handlers_responded ..)

omit hmb in
theorem ring_accounted (hrecords : s.OnlyRecords) (channel : Nat) :
    let report := runStep s ((Script.MailboxStep.ring channel).run c)
    (Turn.mailbox (.ring channel)).Accounted c c.mailbox.config.doorbellLine report ∧
      report.after.OnlyRecords := by
  intro report
  have hstep : report = _ :=
    runStep_ok (bind_pure_ok (Mailbox.ring_run c.mailbox channel ⟨s, []⟩))
  rw [hstep]
  exact ⟨⟨rfl, fun _ _ _ h => nomatch h⟩, hrecords⟩

/-- One step: every turn is accounted for. -/
theorem Turn.accounted (mailbox? : Nat → Option Mailbox) (hrecords : s.OnlyRecords) {turn : Turn}
    (hordinary : turn.Ordinary) :
    turn.Accounted c c.mailbox.config.doorbellLine (runStep s (turn.run mailbox? c)) ∧
      (runStep s (turn.run mailbox? c)).after.OnlyRecords := by
  cases hsilent : turn.isSilent with
  | true => exact Turn.accounted_of_isSilent mailbox? s hrecords hordinary hsilent
  | false =>
      cases turn with
      | chip step => cases hsilent
      | mailbox step =>
          cases step with
          | send channel code flags payload => exact send_accounted hmb s hrecords ..
          | answer channel code data => exact answer_accounted hmb s hrecords ..
          | ring channel => exact ring_accounted s hrecords channel
          | take | semaphore | ringLine | outboundChannel | threadChannel | threadSlot | area
          | installHandler => cases hsilent

/-- A whole run: every turn is accounted for, and in the end the line was rung
    once for each that had a reason. -/
theorem run_accounted (mailbox? : Nat → Option Mailbox) : ∀ (turns : List Turn) (s : Soc),
    s.OnlyRecords → (∀ turn ∈ turns, turn.Ordinary) →
    List.Forall₂ (Turn.Accounted c c.mailbox.config.doorbellLine) turns
        (runScript s (turns.map (Turn.run mailbox? c))) ∧
      (leaves s (runScript s (turns.map (Turn.run mailbox? c)))).rings = s.rings ++
        List.replicate (reasons c turns (runScript s (turns.map (Turn.run mailbox? c))))
          c.mailbox.config.doorbellLine := by
  intro turns
  induction turns with
  | nil => exact fun s _ _ => ⟨.nil, (List.append_nil _).symm⟩
  | cons turn turns ih =>
      intro s hrecords hordinary
      obtain ⟨hturn, hafter⟩ := Turn.accounted hmb s mailbox? hrecords
        (hordinary turn List.mem_cons_self)
      obtain ⟨hrest, htotal⟩ := ih _ hafter fun other hmem =>
        hordinary other (List.mem_cons_of_mem _ hmem)
      refine ⟨.cons hturn hrest, ?_⟩
      rw [List.map_cons, runScript, leaves_cons, htotal, hturn.rings, runStep_before, reasons_cons,
        List.append_assoc]
      split
      · rfl
      · rfl

end Placed

/-- Every ring has a reason and every reason its ring: for a mailbox that was
    connected with any line, on any chip whose handlers only take note, and
    for every run of the mailbox and the firmware, refused and faulty turns
    included. -/
theorem runScript_accounted {config : Configuration} (hdiscovery : config.discoveryBlock = 0)
    (hsemaphore : config.semaphoreBlock = 1) {mb : Mailbox} {w w' : World Soc}
    (hconnect : Mailbox.connect Soc.platform config w = .ok mb w') (number : Nat)
    (mailbox? : Nat → Option Mailbox) {start : Soc} (hrecords : start.OnlyRecords)
    (turns : List Turn) (hordinary : ∀ turn ∈ turns, turn.Ordinary) :
    List.Forall₂ (Turn.Accounted ⟨number, mb⟩ config.doorbellLine) turns
        (runScript start (turns.map (Turn.run mailbox? ⟨number, mb⟩))) ∧
      (leaves start (runScript start (turns.map (Turn.run mailbox? ⟨number, mb⟩)))).rings =
        start.rings ++ List.replicate
          (reasons ⟨number, mb⟩ turns
            (runScript start (turns.map (Turn.run mailbox? ⟨number, mb⟩))))
          config.doorbellLine := by
  obtain ⟨hplaced, hconfig⟩ := Mailbox.placed_of_connect hdiscovery hsemaphore hconnect
  rw [← hconfig]
  exact run_accounted (c := ⟨number, mb⟩) hplaced mailbox? turns start hrecords hordinary

/-- A request that is sent, one that is refused, a ring by hand, a request of
    the firmware that asks for a doorbell beside an unknown flag, the answer
    to it, and another answer that nobody waits for. -/
def someTurns : List Turn :=
  [.mailbox (.send 0 1#32 .empty []), .mailbox (.send 0 1#32 .empty []), .mailbox (.ring 99),
    .chip (.post 1 5#32 ⟨0x80000002#32⟩ [6#8]), .mailbox (.answer 9 7#32 [8#8]),
    .mailbox (.answer 9 7#32 [8#8])]

/-- Four of these turns ring. -/
theorem runScript_accounted_booted :
    ∃ mb w, Mailbox.connect Soc.platform .standard ⟨Soc.booted, []⟩ = .ok mb w ∧
      (leaves Soc.booted (runScript Soc.booted
        (someTurns.map (Turn.run (fun _ => none) ⟨0, mb⟩)))).rings =
          [4#32, 4#32, 4#32, 4#32] := by
  have hreasons : ((World.answer ⟨Soc.booted, []⟩
      (Mailbox.connect Soc.platform .standard)).map fun mb => reasons ⟨0, mb⟩ someTurns
        (runScript Soc.booted (someTurns.map (Turn.run (fun _ => none) ⟨0, mb⟩)))) = .ok 4 := by
    decide +kernel
  have hordinary : ∀ turn ∈ someTurns, turn.Ordinary := by
    simp only [someTurns, List.forall_mem_cons, Turn.Ordinary, List.not_mem_nil, true_and,
      false_implies, implies_true]
  obtain ⟨mb, w, hconnect⟩ := Mailbox.exists_connect_booted
  have htotal := (runScript_accounted rfl rfl hconnect 0 (fun _ => none) Soc.onlyRecords_booted
    someTurns hordinary).2
  rw [World.answer_ok hconnect, Except.map, Except.ok.injEq] at hreasons
  rw [hreasons] at htotal
  exact ⟨mb, w, hconnect, htotal⟩

end Rings

end BpmpMailbox
