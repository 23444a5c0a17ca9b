import BpmpMailbox.Proofs.Effects.Mapping
import BpmpMailbox.Proofs.Payloads
import BpmpMailbox.Proofs.Refinement
import BpmpMailbox.Script.Session

/-!
# Payload bytes stay out of sight

What a mailbox and the firmware do leaves traces: answers and refusals, log
records, calls to the hardware and of handlers, the semaphore word and the
doorbells rung. None of them may tell what was in a message. The statement
compares two runs that differ in the data they are given only, and says that
the traces are the same from the first step to the last.

`veiled` takes the payload bytes out of steps and answers and leaves their
number. Two scripts differ in data only when they are the same under the veil,
and two answers differ in bytes filled in only when they are. It is enough then
to compare a script with the veiled one, whose data are zeros: two scripts with
the same veil behave like that one both.

The steps are all those of a mailbox and of the chip, the firmware's included,
but for three that would change what the runs start from. Publishing addresses
moves the areas away from the windows of the mailbox, and installing a handler
may put one in place that does more than take note.

## Main definitions

* `Script.Reply.veiled`, `Script.MailboxStep.veiled`, `Script.ChipStep.veiled`: Answers and steps
  without their payload bytes.
* `Script.Interaction`: What either side does while a mailbox is in use.
* `Script.Report.observed`: What can be seen of a step.
* `Soc.AreasApart`: The published areas do not overlap.

## Theorems

* `Script.Interaction.run_alike`: A step and the same step veiled.
* `Mailbox.payloads_unobserved`: Scripts that differ in data only are observed alike.
-/

namespace BpmpMailbox

namespace Script

/-- The answer with its payload bytes zeroed. -/
def Reply.veiled : Reply → Reply
  | .response value count buffer => .response value count (veilFirst count buffer)
  | .payload count buffer => .payload count (veilFirst count buffer)
  | .message value => .message value.veiled
  | reply => reply

/-- The operation with zeros in place of its data. -/
def AreaStep.veiled : AreaStep → AreaStep
  | .write data => .write (veil data)
  | step => step

/-- The step with zeros in place of its data. -/
def MailboxStep.veiled : MailboxStep → MailboxStep
  | .send channel code flags payload => .send channel code flags (veil payload)
  | .answer channel code data => .answer channel code (veil data)
  | .area channel step => .area channel step.veiled
  | step => step

/-- The step with zeros in place of its data. -/
def ChipStep.veiled : ChipStep → ChipStep
  | .complete channel code data => .complete channel code (veil data)
  | .post core code flags data => .post core code flags (veil data)
  | step => step

/-- What either side does while a mailbox is in use. -/
inductive Interaction where
  /-- The processor uses the mailbox. -/
  | mailbox (step : MailboxStep)
  /-- The firmware acts, or somebody looks at the chip. -/
  | chip (step : ChipStep)

namespace Interaction

/-- Carry out a step; `mailbox?` knows the mailboxes that handlers may refer to. -/
def run (mailbox? : Nat → Option Mailbox) (c : Connection) : Interaction → Action Soc Reply
  | .mailbox step => step.run c
  | .chip step => step.run mailbox?

/-- The step with zeros in place of its data. -/
def veiled : Interaction → Interaction
  | .mailbox step => .mailbox step.veiled
  | .chip step => .chip step.veiled

/-- Whether the step leaves the published addresses and the handlers alone. -/
def keepsSetup : Interaction → Bool
  | .chip .boot | .chip (.setAddress ..) | .mailbox (.installHandler _) => false
  | _ => true

theorem keepsSetup_veiled (i : Interaction) : i.veiled.keepsSetup = i.keepsSetup := by
  cases i with
  | mailbox step => cases step <;> rfl
  | chip step => cases step <;> rfl

end Interaction

/-- What can be seen of a step. -/
structure Observation where
  /-- The answer or the stop, without payload bytes. -/
  result : Except Stop Reply
  /-- Log records, hardware calls and calls of handlers, in order. -/
  events : List Event
  /-- The semaphore word that the step left. -/
  word : Word
  /-- The doorbell lines rung so far. -/
  rings : List Word

/-- What can be seen of the step in a report. -/
def Report.observed (r : Report Soc Reply) : Observation :=
  ⟨r.result.map Reply.veiled, r.events, r.after.word, r.after.rings⟩

section Steps

variable {l : Layout}

theorem SemaphoreStep.run_unaffected {σ : Type} {rel : σ → σ → Prop} {b : Bus σ}
    (hread : ∀ addr, Unaffected rel (b.read addr))
    (hwrite : ∀ addr value, Unaffected rel (b.write addr value)) (step : SemaphoreStep) :
    Unaffected rel (step.run ⟨b⟩) := by
  cases step with
  | status => exact .bind_eq (hread _) fun _ => .pure rfl
  | state channel =>
      exact .bind_eq (Semaphore.state?_unaffected hread channel) fun _ => .pure rfl
  | query channel =>
      have hquery := Semaphore.inState_unaffected hread channel
      exact .bind_eq (hquery _) fun _ => .bind_eq (hquery _) fun _ => .bind_eq (hquery _) fun _ =>
        .pure rfl
  | signal channel =>
      exact .bind_eq (Semaphore.signal_unaffected hwrite channel) fun _ => .pure rfl
  | ack channel flags =>
      exact .bind_eq (Semaphore.acknowledge_unaffected hread hwrite channel flags) fun _ =>
        .pure rfl
  | free channel =>
      exact .bind_eq (Semaphore.release_unaffected hread hwrite channel) fun _ => .pure rfl

theorem AreaStep.run_alike {area : ChannelArea Soc} (harea : area.InLayout l) (step : AreaStep) :
    Alike (Soc.SameButPayloads l) (fun r r' => r.veiled = r'.veiled) (step.run area)
      (step.veiled.run area) := by
  cases step with
  | code => exact .bind_eq harea.code_unaffected fun _ => .pure rfl
  | setCode code => exact .bind_eq (harea.setCode_unaffected code) fun _ => .pure rfl
  | flags =>
      have hflags := harea.flags_unaffected
      exact .bind_eq hflags fun _ => .bind_eq hflags fun _ => .pure rfl
  | setFlags flags => exact .bind_eq (harea.setFlags_unaffected flags) fun _ => .pure rfl
  | write data =>
      exact .bind_eq (harea.writePayload_alike (length_veil data)) fun _ => .pure rfl
  | read buffer =>
      refine .bind (harea.readPayload_alike buffer) fun r r' hr => .pure ?_
      exact congrArg (fun x : Nat × List Byte => Reply.payload x.1 x.2) hr

/-- A step of a mailbox and the same step with zeros for data. -/
theorem MailboxStep.run_alike {c : Connection} (hmb : c.mailbox.FitsLayout l) {step : MailboxStep}
    (hkeeps : (Interaction.mailbox step).keepsSetup = true) :
    Alike (Soc.SameButPayloads l) (fun r r' => r.veiled = r'.veiled) (step.run c)
      (step.veiled.run c) := by
  cases step with
  | send channel code flags payload =>
      exact .bind_eq (Mailbox.send_alike hmb channel code flags (length_veil payload)) fun _ =>
        .pure rfl
  | take channel buffer =>
      refine .bind (Mailbox.collect_alike hmb channel buffer) fun r r' hr => .pure ?_
      exact congrArg (fun x : Code × Nat × List Byte => Reply.response x.1 x.2.1 x.2.2) hr
  | answer channel code data =>
      exact .bind_eq (Mailbox.respond_alike hmb channel code (length_veil data)) fun _ =>
        .pure rfl
  | semaphore step =>
      have hstep := SemaphoreStep.run_unaffected (Mailbox.semaphore_read_unaffected hmb)
        (Mailbox.semaphore_write_unaffected hmb) step
      exact hstep.mono fun _ _ hr => congrArg Reply.veiled hr
  | ring channel => exact .bind_eq (Mailbox.ring_unaffected c.mailbox channel) fun _ => .pure rfl
  | ringLine line => exact .bind_eq (Soc.ring_unaffected line) fun _ => .pure rfl
  | outboundChannel =>
      exact .bind_eq (.bind_eq Soc.runningCore_unaffected fun _ => .ofExcept _) fun _ => .pure rfl
  | threadChannel slot => exact .bind_eq (.ofExcept _) fun _ => .pure rfl
  | threadSlot channel => exact .pure rfl
  | area channel step =>
      refine .bind (Mailbox.area_alike hmb channel) fun area _ harea => ?_
      obtain ⟨rfl, harea⟩ := harea
      exact AreaStep.run_alike harea step
  | installHandler reaction => cases hkeeps

/-- A step of the chip or its firmware and the same step with zeros for data. -/
theorem ChipStep.run_alike (mailbox? : Nat → Option Mailbox) {step : ChipStep}
    (hkeeps : (Interaction.chip step).keepsSetup = true) :
    Alike (Soc.SameButPayloads l) (fun r r' => r.veiled = r'.veiled) (step.run mailbox?)
      (step.veiled.run mailbox?) := by
  cases step with
  | boot => cases hkeeps
  | setAddress channel addr => cases hkeeps
  | setCpu core =>
      exact .bind_eq (.setHardware fun _ _ hst => hst.changed (fun x => { x with cpu := core })
        (fun _ _ => rfl) (fun _ => rfl) rfl rfl) fun _ => .pure rfl
  | state channel =>
      refine .bind .hardware fun s t hst => ?_
      rw [hst.view_eq (fun x => x.state channel) fun _ => rfl]
      exact .bind_eq (.ofExcept _) fun _ => .pure rfl
  | allRings =>
      refine .bind .hardware fun s t hst => ?_
      rw [hst.rings_eq]
      exact .pure rfl
  | registered =>
      refine .bind .hardware fun s t hst => ?_
      rw [hst.view_eq Soc.registeredCores fun _ => rfl]
      exact .pure rfl
  | bound core =>
      refine .bind .hardware fun s t hst => ?_
      rw [hst.view_eq (fun x => x.binding? core) fun _ => rfl]
      exact .pure rfl
  | fire core => exact .bind_eq (Soc.fire_unaffected mailbox? core) fun _ => .pure rfl
  | inject faults =>
      exact .bind_eq (.setHardware fun _ _ hst => hst.changed (fun x => { x with faults := faults })
        (fun _ _ => rfl) (fun _ => rfl) rfl rfl) fun _ => .pure rfl
  | queue channel => exact .bind_eq (Firmware.queue_unaffected channel) fun _ => .pure rfl
  | complete channel code data =>
      exact .bind_eq (Firmware.complete_alike channel code (length_veil data)) fun _ => .pure rfl
  | post core code flags data =>
      exact .bind_eq (Firmware.post_alike mailbox? core code flags (length_veil data)) fun _ =>
        .pure rfl
  | release channel => exact .bind_eq (Firmware.release_unaffected channel) fun _ => .pure rfl
  | message channel =>
      exact .bind (Firmware.message_alike channel) fun _ _ hm => .pure (congrArg Reply.message hm)

/-- Any step and the same step veiled. -/
theorem Interaction.run_alike (mailbox? : Nat → Option Mailbox) {c : Connection}
    (hmb : c.mailbox.FitsLayout l) {i : Interaction} (hkeeps : i.keepsSetup = true) :
    Alike (Soc.SameButPayloads l) (fun r r' => r.veiled = r'.veiled) (i.run mailbox? c)
      (i.veiled.run mailbox? c) := by
  cases i with
  | mailbox step => exact MailboxStep.run_alike hmb hkeeps
  | chip step => exact ChipStep.run_alike mailbox? hkeeps

/-- A script is observed like the veiled one. -/
theorem runScript_observed (mailbox? : Nat → Option Mailbox) {c : Connection}
    (hmb : c.mailbox.FitsLayout l) {s : Soc} (hplaced : s.PlacedAt l) (hrecords : s.OnlyRecords)
    (steps : List Interaction) (hkeeps : ∀ i ∈ steps, i.keepsSetup = true) :
    (runScript s (steps.map (Interaction.run mailbox? c))).map Report.observed =
      (runScript s ((steps.map Interaction.veiled).map (Interaction.run mailbox? c))).map
        Report.observed := by
  have hsteps : List.Forall₂ (Alike (Soc.SameButPayloads l) fun r r' => r.veiled = r'.veiled)
      (steps.map (Interaction.run mailbox? c))
      ((steps.map Interaction.veiled).map (Interaction.run mailbox? c)) := by
    rw [List.map_map, List.forall₂_map_left_iff, List.forall₂_map_right_iff, List.forall₂_same]
    exact fun i hi => Interaction.run_alike mailbox? hmb (hkeeps i hi)
  have hreports := Alike.runScript hsteps (Soc.SameButPayloads.refl hplaced hrecords)
  rw [← List.forall₂_eq_eq_eq, List.forall₂_map_left_iff, List.forall₂_map_right_iff]
  refine hreports.imp fun r r' h => ?_
  rcases h with ⟨hresult, hevents, hafter⟩
  rw [Report.observed, Report.observed, hresult, hevents, hafter.word_eq, hafter.rings_eq]

end Steps

end Script

/-- No two of the published areas overlap in the bytes of a message. -/
def Soc.AreasApart (s : Soc) : Prop :=
  ∀ channel < channelCount, ∀ other < channelCount, channel ≠ other →
    (s.published channel).toNat + messageSize ≤ (s.published other).toNat ∨
      (s.published other).toNat + messageSize ≤ (s.published channel).toNat

/-- The areas of a chip whose firmware has just started do not overlap. -/
theorem Soc.areasApart_booted : Soc.booted.AreasApart := by
  intro channel hlt other hlt' hne
  have hchannel := Soc.toNat_published_boot (s := Soc.booted) rfl ⟨channel, hlt⟩
  have hother := Soc.toNat_published_boot (s := Soc.booted) rfl ⟨other, hlt'⟩
  have hapart := messages_apart hne
  simp only at hchannel hother
  omega

namespace Mailbox

open Script (Connection Interaction Report runScript)

/-- Areas that lie apart make a layout, which the mailbox fits and where the
    firmware finds the messages. -/
theorem exists_layout_of_connect {config : Configuration} (hdiscovery : config.discoveryBlock = 0)
    (hsemaphore : config.semaphoreBlock = 1) {mb : Mailbox} {w w' : World Soc}
    (hconnect : connect Soc.platform config w = .ok mb w') {s : Soc}
    (haddresses : s.addresses = w.hardware.addresses) (hapart : s.AreasApart) :
    ∃ l, mb.FitsLayout l ∧ s.PlacedAt l := by
  have hplaced := (placed_of_connect hdiscovery hsemaphore hconnect).1
  have hwindows := windows_of_connect hdiscovery hsemaphore hconnect (fun _ _ => True)
    fun _ _ _ _ _ _ => trivial
  have hpublished : s.published = w.hardware.published := by
    funext channel
    rw [Soc.published, haddresses, Soc.published]
  -- Nothing below the memory was mapped, so the areas lie apart inside the memory as well.
  have hle : ∀ channel : Fin channelCount, dramBase ≤ (s.published channel).toNat := by
    intro channel
    rw [hpublished]
    exact Soc.dramBase_le_of_connect hdiscovery hsemaphore hconnect channel.isLt
  have hplace : (fun channel : Fin channelCount => w.hardware.placeOf channel) =
      fun channel : Fin channelCount => s.placeOf channel := by
    funext channel
    rw [Soc.placeOf, Soc.placeOf, hpublished]
  rw [hplace] at hplaced
  refine ⟨⟨fun channel => s.placeOf channel, fun channel => ?_, fun channel other hne => ?_⟩,
    ⟨hplaced, hwindows.2.1⟩, fun channel => Soc.areaOffset_of_le channel.isLt (hle channel)⟩
  · rcases hplaced.window channel with ⟨region, -, hat⟩
    exact hat.inside
  · have hchannel := hle channel
    have hother := hle other
    have hdistance := hapart channel channel.isLt other other.isLt (Fin.val_ne_of_ne hne)
    simp only [Soc.placeOf]
    omega

/-- Payload bytes influence nothing that can be seen. Take two scripts on the
    same chip, with a connected mailbox, areas that do not overlap and handlers
    that only take note, that differ in the data they are given only, and not
    in the number of bytes. Step by step both have the same answer but for
    payload bytes, or the same stop, the same log records, hardware calls and
    calls of handlers, and they leave the same semaphore word and the same
    doorbells rung. -/
theorem payloads_unobserved {config : Configuration} (hdiscovery : config.discoveryBlock = 0)
    (hsemaphore : config.semaphoreBlock = 1) {c : Connection} {w w' : World Soc}
    (hconnect : connect Soc.platform config w = .ok c.mailbox w') {s : Soc}
    (haddresses : s.addresses = w.hardware.addresses) (hapart : s.AreasApart)
    (hrecords : s.OnlyRecords) (mailbox? : Nat → Option Mailbox) {steps steps' : List Interaction}
    (hkeeps : ∀ i ∈ steps, i.keepsSetup = true)
    (hveiled : steps.map Interaction.veiled = steps'.map Interaction.veiled) :
    (runScript s (steps.map (Interaction.run mailbox? c))).map Report.observed =
      (runScript s (steps'.map (Interaction.run mailbox? c))).map Report.observed := by
  rcases exists_layout_of_connect hdiscovery hsemaphore hconnect haddresses hapart with
    ⟨l, hmb, hplaced⟩
  -- The steps of the other script are of the same kinds.
  have hkeeps' : ∀ i ∈ steps', i.keepsSetup = true := by
    intro i hi
    have hmem : i.veiled ∈ steps.map Interaction.veiled := hveiled ▸ List.mem_map_of_mem hi
    rcases List.mem_map.mp hmem with ⟨j, hj, hsame⟩
    rw [← i.keepsSetup_veiled, ← hsame, j.keepsSetup_veiled]
    exact hkeeps j hj
  rw [Script.runScript_observed mailbox? hmb hplaced hrecords steps hkeeps, hveiled,
    Script.runScript_observed mailbox? hmb hplaced hrecords steps' hkeeps']

/-- A request and its answer, and a request of the firmware and its answer, each
    with other data, on a chip whose firmware has just started. -/
theorem payloads_unobserved_booted :
    ∃ mb w', connect Soc.platform .standard ⟨Soc.booted, []⟩ = .ok mb w' ∧
      (runScript Soc.booted
        ([.mailbox (.send 0 1#32 .doAck [1#8, 2#8]), .chip (.complete 0 2#32 [3#8]),
          .mailbox (.take 0 [0#8, 0#8]), .chip (.post 0 4#32 .ringDoorbell [5#8]),
          .mailbox (.answer 8 6#32 [7#8, 8#8])].map
            (Interaction.run (fun _ => none) ⟨0, mb⟩))).map Report.observed =
      (runScript Soc.booted
        ([.mailbox (.send 0 1#32 .doAck [9#8, 9#8]), .chip (.complete 0 2#32 [9#8]),
          .mailbox (.take 0 [0#8, 0#8]), .chip (.post 0 4#32 .ringDoorbell [9#8]),
          .mailbox (.answer 8 6#32 [9#8, 9#8])].map
            (Interaction.run (fun _ => none) ⟨0, mb⟩))).map Report.observed := by
  rcases exists_connect_booted with ⟨mb, w', hconnect⟩
  refine ⟨mb, w', hconnect, ?_⟩
  exact payloads_unobserved rfl rfl (c := ⟨0, mb⟩) hconnect rfl Soc.areasApart_booted
    Soc.onlyRecords_booted (fun _ => none)
    (by decide) rfl

end Mailbox

end BpmpMailbox
