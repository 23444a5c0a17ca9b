import BpmpMailbox.Proofs.Agreement

/-!
# The chip as twelve records

An operation on the chip is the same operation on the twelve records read off
the chip, and one step extends to any number of steps. What a step needs of
the chip is that the firmware finds the messages where the mailbox has its
windows, and that the handlers only take note of their calls. No operation
changes either, so what holds at the start of a script holds throughout.

With the firmware's own layout the records can also be put back: the semaphore
word and the memory are made up of them, beside eight bits and some bytes that
no operation touches. The mailbox may have larger windows than a message
needs, and these overlap; its operations do not.

## Main definitions

* `Soc.Kept`: Nothing has changed besides the fields and messages of channels.

## Theorems

* `Operation.runStep_effect`: An operation on the chip is the operation on the records.
* `Operation.runScript_trace`: So are operations one after the other.
* `Mailbox.placed_boot`: A connected mailbox has its windows where the firmware has the messages.
* `Mailbox.runScript_encodes`: Whatever is done to it, the chip remains twelve records.
-/

namespace BpmpMailbox

open Script (Reply Report runStep)

namespace Operation

section

variable {l : Layout} {mb : Mailbox} {s : Soc} (mailbox? : Nat → Option Mailbox)

/-- An operation on the chip is the same operation on the records read off the
    chip, and it leaves everything outside its channel alone. -/
theorem runStep_effect (op : Operation) (hmb : mb.Placed l.place) (hs : s.PlacedAt l)
    (hrecords : op.raisesDoorbell = true → s.OnlyRecords) :
    op.effect s.isListening (s.records l) =
        ((runStep s (op.run mailbox? mb)).result,
          (runStep s (op.run mailbox? mb)).after.records l) ∧
      op.Confined l s (runStep s (op.run mailbox? mb)).after := by
  -- A report remembers the chip on which its step was taken.
  have hbefore : (runStep s (op.run mailbox? mb)).before = s := by
    unfold runStep
    split <;> rfl
  by_cases hlt : op.channel < channelCount
  · have hagrees := agrees mailbox? hmb hs hrecords (⟨op.channel, hlt⟩ : Fin channelCount) rfl
    have houtcome := hagrees.outcome
    have hchanged := hagrees.changed
    rw [hbefore] at houtcome hchanged
    -- On the records the change of one channel is the update of one of them.
    refine ⟨?_, ?_⟩
    · rw [effect_inside _ _ ⟨op.channel, hlt⟩ rfl, houtcome,
        ← Soc.records_of_changedOn l hchanged]
    · rw [Confined, dif_pos hlt]
      exact hchanged
  · rcases runStep_outside mailbox? mb s (Nat.not_lt.mp hlt) with ⟨events, hstep⟩
    rw [effect_outside _ _ (Nat.not_lt.mp hlt), hstep, Confined, dif_neg hlt]
    exact ⟨rfl, rfl⟩

end

end Operation

namespace Soc

/-- Nothing has changed besides the fields and the messages of channels, and
    the doorbells rung. -/
structure Kept (l : Layout) (s t : Soc) : Prop where
  spare : t.word &&& spareBits = s.word &&& spareBits
  byte : ∀ i, (∀ channel, i < l.place channel ∨ l.place channel + messageSize ≤ i) →
    t.dram.bytes[i]? = s.dram.bytes[i]?
  rest : { t with word := s.word, dram := s.dram, rings := s.rings } = s

namespace Kept

variable {l : Layout} {s t u : Soc}

theorem refl (l : Layout) (s : Soc) : Kept l s s := ⟨rfl, fun _ _ => rfl, rfl⟩

theorem trans (hst : Kept l s t) (htu : Kept l t u) : Kept l s u where
  spare := htu.spare.trans hst.spare
  byte i hi := (htu.byte i hi).trans (hst.byte i hi)
  rest := (congrArg (fun x : Soc => { x with word := s.word, dram := s.dram, rings := s.rings })
    htu.rest).trans hst.rest

theorem of_changedOn {channel : Fin channelCount} (h : ChangedOn channel (l.place channel) s t) :
    Kept l s t :=
  ⟨h.spare, fun i hi => h.byte i (hi channel), h.rest⟩

theorem of_confined {op : Operation} (h : op.Confined l s t) : Kept l s t := by
  unfold Operation.Confined at h
  split at h
  · exact of_changedOn h
  · rw [h]
    exact refl l s

theorem addresses_eq (h : Kept l s t) : t.addresses = s.addresses := by
  have haddresses := congrArg Soc.addresses h.rest
  exact haddresses

theorem handlers_eq (h : Kept l s t) : t.handlers = s.handlers := by
  have hhandlers := congrArg Soc.handlers h.rest
  exact hhandlers

theorem placedAt (h : Kept l s t) (hs : s.PlacedAt l) : t.PlacedAt l := by
  intro channel
  rw [areaOffset, h.addresses_eq]
  exact hs channel

theorem onlyRecords (h : Kept l s t) (hs : s.OnlyRecords) : t.OnlyRecords :=
  hs.of_handlers_eq h.handlers_eq

theorem isListening_eq (h : Kept l s t) : t.isListening = s.isListening := by
  funext core
  rw [isListening, binding?, h.handlers_eq]
  rfl

/-- What follows the last message is as it was. -/
theorem drop_eq (h : Kept Layout.boot s t) :
    t.dram.bytes.drop (channelCount * messageSize) =
      s.dram.bytes.drop (channelCount * messageSize) := by
  apply List.ext_getElem?
  intro i
  rw [List.getElem?_drop, List.getElem?_drop]
  -- The rest begins where the last message ends.
  refine h.byte _ fun channel => Or.inr ?_
  have hlt := channel.isLt
  simp only [Layout.boot, channelCount, messageSize] at hlt ⊢
  omega

end Kept

end Soc

namespace Operation

/-- Operations one after the other on the chip have the outcomes that they
    have on the records. By induction on the operations; a step changes
    neither the addresses nor the handlers, on which the next one relies. -/
theorem runScript_trace {l : Layout} {mb : Mailbox} (hmb : mb.Placed l.place)
    (mailbox? : Nat → Option Mailbox) : ∀ (ops : List Operation) (s : Soc),
    s.PlacedAt l → s.OnlyRecords →
      List.Forall₂
        (fun report outcome =>
          outcome = (report.result, report.after.records l) ∧ s.Kept l report.after)
        (Script.runScript s (ops.map (run mailbox? mb)))
        (trace s.isListening (s.records l) ops) := by
  intro ops
  induction ops with
  | nil => intro s _ _; exact List.Forall₂.nil
  | cons op ops ih =>
      intro s hs hrecords
      rcases runStep_effect mailbox? op hmb hs (fun _ => hrecords) with ⟨heffect, hconfined⟩
      -- What the step has left still satisfies what the steps after it need.
      have hkept := Soc.Kept.of_confined hconfined
      have hrest := ih _ (hkept.placedAt hs) (hkept.onlyRecords hrecords)
      rw [hkept.isListening_eq] at hrest
      simp only [List.map_cons, Script.runScript, trace]
      refine List.Forall₂.cons ⟨heffect, hkept⟩ ?_
      rw [heffect]
      exact hrest.imp fun _ _ h => ⟨h.1, hkept.trans h.2⟩

end Operation

/-- No core has a handler when the firmware starts. -/
theorem Soc.binding?_booted (core : Nat) : Soc.booted.binding? core = none := by
  have hget : Soc.booted.handlers[core]? = if core < coreCount then some none else none :=
    Vector.getElem?_replicate
  rw [Soc.binding?, hget]
  split <;> rfl

theorem Soc.onlyRecords_booted : Soc.booted.OnlyRecords := fun core b hb => by
  rw [Soc.binding?_booted] at hb
  cases hb

namespace Mailbox

/-- A mailbox that was connected to a chip with the firmware's layout has its
    windows where the layout has the messages. -/
theorem placed_boot {config : Configuration} (hdiscovery : config.discoveryBlock = 0)
    (hsemaphore : config.semaphoreBlock = 1) {mb : Mailbox} {w w' : World Soc}
    (hconnect : connect Soc.platform config w = .ok mb w')
    (hboot : w.hardware.addresses = Soc.bootAddresses) : mb.Placed Layout.boot.place := by
  have hplaced := (placed_of_connect hdiscovery hsemaphore hconnect).1
  -- Where the windows are was read off the addresses published, and these are the firmware's.
  have hplace : (fun channel : Fin channelCount => w.hardware.placeOf channel) =
      Layout.boot.place := funext fun channel => Soc.placeOf_boot hboot channel
  rwa [hplace] at hplaced

/-- Whatever is done to the channels, in whatever order and in whatever states,
    the chip remains twelve records. The word and the memory are made up of
    them, each operation answers as it does on the records, and of the records
    it changes at most that of its own channel, and none when it fails. -/
theorem runScript_encodes {config : Configuration} (hdiscovery : config.discoveryBlock = 0)
    (hsemaphore : config.semaphoreBlock = 1) {mb : Mailbox} {w w' : World Soc}
    (hconnect : connect Soc.platform config w = .ok mb w')
    (hboot : w.hardware.addresses = Soc.bootAddresses) {s : Soc}
    (haddresses : s.addresses = Soc.bootAddresses) (hrecords : s.OnlyRecords)
    (mailbox? : Nat → Option Mailbox) (ops : List Operation) :
    s.Encodes (s.records Layout.boot) (s.word &&& spareBits)
        (s.dram.bytes.drop (channelCount * messageSize)) ∧
      List.Forall₂
        (fun report outcome => report.result = outcome.1 ∧
          report.after.Encodes outcome.2 (s.word &&& spareBits)
            (s.dram.bytes.drop (channelCount * messageSize)))
        (Script.runScript s (ops.map (Operation.run mailbox? mb)))
        (Operation.trace s.isListening (s.records Layout.boot) ops) ∧
      ∀ (op : Operation) (rs : Records),
        (∀ other : Fin channelCount, other.val ≠ op.channel →
          (op.effect s.isListening rs).2 other = rs other) ∧
        ∀ e, (op.effect s.isListening rs).1 = .error e → (op.effect s.isListening rs).2 = rs := by
  have hplaced := placed_boot hdiscovery hsemaphore hconnect hboot
  have htrace := Operation.runScript_trace hplaced mailbox? ops s (Soc.placedAt_boot haddresses)
    hrecords
  refine ⟨s.encodes_records, htrace.imp fun report outcome h => ?_, fun op rs => ⟨?_, ?_⟩⟩
  · rcases h with ⟨houtcome, hkept⟩
    -- The chip encodes its own records; what is left to see is that the rest has stayed.
    have hencodes := report.after.encodes_records
    rw [hkept.spare, hkept.drop_eq] at hencodes
    rw [houtcome]
    exact ⟨rfl, hencodes⟩
  · exact fun other hne => Operation.effect_of_ne s.isListening op rs hne
  · exact fun e h => Operation.effect_error s.isListening op rs h

/-- A request, its answer, a release in the wrong state, a request on an
    inbound channel and the collection of the answer, on a chip whose firmware
    has just started. -/
theorem runScript_encodes_booted :
    ∃ mb w', connect Soc.platform .standard ⟨Soc.booted, []⟩ = .ok mb w' ∧
      (Script.runScript Soc.booted
        ([.send 0 1#32 .doAck [7#8], .complete 0 2#32 [8#8, 9#8], .release 1,
          .send 8 0#32 .empty [], .collect 0 [0#8]].map
            (Operation.run (fun _ => none) mb))).map (·.result) =
        [.ok .done, .ok .done, .error (.fault (.releaseOutsideAck 1)),
          .error (.refused (.invalidChannel 8)), .ok (.response 2#32 1 [8#8])] := by
  rcases exists_connect_booted with ⟨mb, w', hconnect⟩
  have hencodes := (runScript_encodes rfl rfl hconnect rfl rfl Soc.onlyRecords_booted
    (fun _ => none) [.send 0 1#32 .doAck [7#8], .complete 0 2#32 [8#8, 9#8], .release 1,
      .send 8 0#32 .empty [], .collect 0 [0#8]]).2.1
  have hresults := hencodes.imp fun _ _ h => h.1
  -- The answers on the records are computed, and those of the chip are the same.
  rw [← List.forall₂_map_right_iff, ← List.forall₂_map_left_iff, List.forall₂_eq_eq_eq] at hresults
  exact ⟨mb, w', hconnect, hresults.trans rfl⟩

end Mailbox

end BpmpMailbox
