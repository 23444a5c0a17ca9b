import BpmpMailbox.Proofs.Refinement

/-!
# Who writes the buffer of a channel, and when

A channel's buffer changes hands with its state: an outbound buffer belongs to
the processor while the channel is free, an inbound one while the firmware has
signalled it and waits for an answer. A request keeps to this. It looks at the
role and at the state first, and where the buffer is not granted it leaves the
chip as it was.

An answer does not. It is written to any channel that exists, outbound ones
included, and it is acknowledged there; the state is looked at when the
message is already written, and decides about a warning only. What keeps an
answer from being seen is only that it happens to leave everything the way it
is. The statements here are for every state of the chip and for windows that
may overlap, so they hold in particular in every state that can be reached.

## Main definitions

* `Soc.Touched`: The message or the field of a channel has changed.
* `Soc.AnswerShows`: An answer would not leave a channel the way it is.

## Theorems

* `Soc.touched_iff`: What has changed shows in the record.
* `Mailbox.touched_send_iff`: When a request changes its channel.
* `Mailbox.touched_respond_iff`: When an answer changes its channel.
* `Mailbox.buffer_ownership`: Requests keep to the ownership of buffers, answers do not.
-/

namespace BpmpMailbox

open Script (Reply runStep)

/-- An answer leaves a record as it is when it says what is there already. -/
theorem Record.answered_eq_iff (r : Record) (code : Code) {data : List Byte}
    (hlen : data.length ≤ payloadSize) :
    (⟨r.flags.settled, code, r.flags, r.data.store 0 data⟩ : Record) = r ↔
      r.code = code ∧ data <+: r.data.bytes ∧ r.state = r.flags.settled := by
  have hdata : r.data.store 0 data = r.data ↔ data <+: r.data.bytes := by
    rw [List.prefix_iff_eq_append, ← Memory.bytes_store_zero r.data hlen]
    exact ⟨congrArg Memory.bytes, Memory.eq_of_bytes⟩
  -- The flags are the record's own in any case, so three fields are left to compare.
  rw [Record.ext_iff]
  constructor
  · rintro ⟨hstate, hcode, -, hbytes⟩
    exact ⟨hcode.symm, hdata.mp hbytes, hstate.symm⟩
  · rintro ⟨hcode, hprefix, hstate⟩
    exact ⟨hstate.symm, hcode.symm, rfl, hdata.mpr hprefix⟩

namespace Soc

/-- The message at the place or the field of the channel has changed. -/
def Touched (channel place : Nat) (s t : Soc) : Prop :=
  t.dram.load place messageSize ≠ s.dram.load place messageSize ∨
    Word.field t.word channel ≠ Word.field s.word channel

/-- An answer with this code and these bytes would change the code, the
    payload or the state that the channel has. -/
def AnswerShows (s : Soc) (channel place : Nat) (code : Code) (data : List Byte) : Prop :=
  s.dram.loadWord (place + codeOffset) ≠ code ∨
    ¬ data <+: s.dram.load (place + payloadOffset) payloadSize ∨
    Word.state s.word channel ≠
      (MessageFlags.mk (s.dram.loadWord (place + flagsOffset))).settled

theorem not_touched_self (channel place : Nat) (s : Soc) : ¬ Touched channel place s s := by
  intro h
  rcases h with hbytes | hfield
  · exact hbytes rfl
  · exact hfield rfl

/-- A step that is refused before it writes has touched nothing. -/
theorem not_touched_of_error {act : Action Soc Reply} {s : Soc} {e : Stop} {events : List Event}
    (h : act ⟨s, []⟩ = .error e (World.moved ⟨s, []⟩ s events)) (channel place : Nat) :
    ¬ Touched channel place s (runStep s act).after := by
  rw [runStep_error h]
  exact not_touched_self channel place s

/-- What has changed of a channel shows in its record. -/
theorem touched_iff (channel : Nat) {place : Nat} (h : place + messageSize ≤ dramSize) (s t : Soc) :
    Touched channel place s t ↔
      t.recordAt channel place h ≠ s.recordAt channel place h := by
  have hfield : ∀ w : Word, Word.field w channel = (Word.state w channel).toField := fun w =>
    Word.field_eq_toField w channel
  constructor
  · intro htouched heq
    -- Equal records have equal bytes and equal states, and a state determines its field.
    rcases htouched with hbytes | hstate
    · rw [load_recordAt t channel h, load_recordAt s channel h, heq] at hbytes
      exact hbytes rfl
    · have hs : Word.state t.word channel = Word.state s.word channel :=
        congrArg Record.state heq
      rw [hfield, hfield, hs] at hstate
      exact hstate rfl
  · intro hne
    by_contra hsame
    simp only [Touched, not_or, ne_eq, not_not] at hsame
    rcases hsame with ⟨hbytes, hstate⟩
    refine hne ?_
    -- The bytes of a message determine the message, and the field the state.
    rw [load_recordAt t channel h, load_recordAt s channel h] at hbytes
    have hmessage := congrArg Message.ofBytes hbytes
    rw [Record.ofBytes_bytes, Record.ofBytes_bytes, Record.message, Record.message,
      Message.mk.injEq] at hmessage
    rcases hmessage with ⟨hcode, hflags, hdata⟩
    refine Record.ext ?_ hcode hflags (Memory.eq_of_bytes hdata)
    have hofField := congrArg ChannelState.ofField hstate
    rwa [← Word.state_eq_ofField, ← Word.state_eq_ofField] at hofField

end Soc

namespace Mailbox

section

variable {mb : Mailbox} {place : Fin channelCount → Nat} (hmb : mb.Placed place)
  (mailbox? : Nat → Option Mailbox) (s : Soc) (channel : Fin channelCount)

include hmb

/-- A request changes its channel when the channel is outbound and free and the
    payload fits a message, and in no other case. -/
theorem touched_send_iff (code : Code) (flags : MessageFlags) (payload : List Byte) :
    Soc.Touched channel (place channel) s
        (runStep s ((Operation.send channel code flags payload).run mailbox? mb)).after ↔
      channel.val < inboundBase ∧ Word.state s.word channel = .free ∧
        payload.length ≤ payloadSize := by
  rcases hmb.window channel with ⟨region, hreg, hplace⟩
  by_cases hin : inboundBase ≤ channel.val
  · have hsend := send_notOutbound Soc.platform mb hin code flags payload ⟨s, []⟩
    exact iff_of_false (Soc.not_touched_of_error (bind_error hsend) _ _)
      fun h => absurd h.1 (Nat.not_lt.mpr hin)
  · have hout : channel.val < inboundBase := Nat.not_le.mp hin
    by_cases hfree : Word.state s.word channel = .free
    · by_cases hlen : payloadSize < payload.length
      · have hsend := send_tooLarge hmb.semaphore hreg hout code flags ⟨s, []⟩ hfree hlen
        exact iff_of_false (Soc.not_touched_of_error (bind_error hsend) _ _)
          fun h => absurd h.2.2 (Nat.not_le.mpr hlen)
      · have hlen' := Nat.not_lt.mp hlen
        have hsend := send_run hmb.semaphore hreg hout hplace code flags ⟨s, []⟩ hfree hlen'
        have hstep : runStep s ((Operation.send channel code flags payload).run mailbox? mb) = _ :=
          runStep_ok (bind_pure_ok hsend)
        rw [hstep]
        refine iff_of_true ((Soc.touched_iff _ hplace.inside _ _).mpr fun hrecord => ?_)
          ⟨hout, hfree, hlen'⟩
        -- The channel was free and is signalled.
        have hsent := Soc.recordAt_sent s channel hplace.inside code flags hlen'
          mb.config.doorbellLine
        have hstate : ChannelState.signalled = .free :=
          (congrArg Record.state (hsent.symm.trans hrecord)).trans hfree
        cases hstate
    · have hsend := send_busy hmb.semaphore hreg hout code flags payload ⟨s, []⟩ hfree
      exact iff_of_false (Soc.not_touched_of_error (bind_error hsend) _ _)
        fun h => absurd h.2.1 hfree

/-- An answer changes its channel whenever it fits a message and does not leave
    things the way they are, whatever the role and the state of the channel. -/
theorem touched_respond_iff (code : Code) (data : List Byte) :
    Soc.Touched channel (place channel) s
        (runStep s ((Operation.respond channel code data).run mailbox? mb)).after ↔
      data.length ≤ payloadSize ∧ s.AnswerShows channel (place channel) code data := by
  rcases hmb.window channel with ⟨region, hreg, hplace⟩
  by_cases hlen : payloadSize < data.length
  · have hrespond := respond_tooLarge mb channel.isLt code hlen ⟨s, []⟩
    exact iff_of_false (Soc.not_touched_of_error (bind_error hrespond) _ _)
      fun h => absurd h.1 (Nat.not_le.mpr hlen)
  · have hlen' := Nat.not_lt.mp hlen
    have hrespond := respond_run hmb.semaphore hreg channel.isLt hplace code hlen' ⟨s, []⟩
    have hstep : runStep s ((Operation.respond channel code data).run mailbox? mb) = _ :=
      runStep_ok (bind_pure_ok hrespond)
    rw [hstep]
    have hresponded := Soc.recordAt_responded s channel hplace.inside code
      (s.recordAt channel (place channel) hplace.inside).flags hlen' mb.config.doorbellLine
    -- Touched means that the record is another one, and what an answer makes of it is known.
    refine (Soc.touched_iff channel hplace.inside _ _).trans ?_
    refine (not_congr ((Eq.congr_left hresponded).trans
      (Record.answered_eq_iff _ code hlen'))).trans ?_
    simp only [hlen', true_and, Soc.AnswerShows, ne_eq, not_and_or]
    rfl

end

/-- A request or an answer on a channel that does not exist leaves the chip as it was. -/
theorem not_touched_outside (mb : Mailbox) (mailbox? : Nat → Option Mailbox) (s : Soc)
    (op : Operation) (h : channelCount ≤ op.channel) (channel place : Nat) :
    ¬ Soc.Touched channel place s (runStep s (op.run mailbox? mb)).after := by
  rcases Operation.runStep_outside mailbox? mb s h with ⟨events, hstep⟩
  rw [hstep]
  exact Soc.not_touched_self channel place s

/-- Who changes the buffer or the field of a channel, in every state of the
    chip and wherever the windows lie. A request does so exactly when the
    channel is outbound and free and the payload fits. An answer does so
    whenever it fits and says something new; so it breaks the ownership of the
    buffer exactly when, besides, the channel is outbound or nothing on it
    waits for an answer. -/
theorem buffer_ownership {config : Configuration} (hdiscovery : config.discoveryBlock = 0)
    (hsemaphore : config.semaphoreBlock = 1) {mb : Mailbox} {w w' : World Soc}
    (hconnect : connect Soc.platform config w = .ok mb w') (mailbox? : Nat → Option Mailbox)
    (s : Soc) (channel : Nat) :
    (∀ code flags payload,
      Soc.Touched channel (w.hardware.placeOf channel) s
          (runStep s ((Operation.send channel code flags payload).run mailbox? mb)).after ↔
        channel < inboundBase ∧ Word.state s.word channel = .free ∧
          payload.length ≤ payloadSize) ∧
    (∀ code data,
      Soc.Touched channel (w.hardware.placeOf channel) s
          (runStep s ((Operation.respond channel code data).run mailbox? mb)).after ↔
        channel < channelCount ∧ data.length ≤ payloadSize ∧
          s.AnswerShows channel (w.hardware.placeOf channel) code data) ∧
    ∀ code data,
      (Soc.Touched channel (w.hardware.placeOf channel) s
          (runStep s ((Operation.respond channel code data).run mailbox? mb)).after ∧
        ¬ (inboundBase ≤ channel ∧
          (Word.state s.word channel = .signalled ∨ Word.state s.word channel = .queued))) ↔
        (channel < channelCount ∧ data.length ≤ payloadSize ∧
          s.AnswerShows channel (w.hardware.placeOf channel) code data) ∧
        (channel < inboundBase ∨ Word.state s.word channel = .free ∨
          Word.state s.word channel = .acknowledged) := by
  have hplaced := (placed_of_connect hdiscovery hsemaphore hconnect).1
  have hrespond : ∀ code data,
      Soc.Touched channel (w.hardware.placeOf channel) s
          (runStep s ((Operation.respond channel code data).run mailbox? mb)).after ↔
        channel < channelCount ∧ data.length ≤ payloadSize ∧
          s.AnswerShows channel (w.hardware.placeOf channel) code data := by
    intro code data
    by_cases hlt : channel < channelCount
    · have hiff := touched_respond_iff hplaced mailbox? s ⟨channel, hlt⟩ code data
      simp only [hlt, true_and]
      exact hiff
    · exact iff_of_false (not_touched_outside mb mailbox? s (.respond channel code data)
        (Nat.not_lt.mp hlt) channel _) fun h => hlt h.1
  refine ⟨fun code flags payload => ?_, hrespond, fun code data => ?_⟩
  · by_cases hlt : channel < channelCount
    · exact touched_send_iff hplaced mailbox? s ⟨channel, hlt⟩ code flags payload
    · exact iff_of_false (not_touched_outside mb mailbox? s (.send channel code flags payload)
        (Nat.not_lt.mp hlt) channel _) fun h => hlt (Nat.lt_trans h.1 (by decide))
  · -- A state that does not ask for an answer is one of the other two.
    have hstates : ∀ state : ChannelState, ¬ (state = .signalled ∨ state = .queued) ↔
        state = .free ∨ state = .acknowledged := by
      intro state
      cases state <;> decide
    have hungranted : ¬ (inboundBase ≤ channel ∧
        (Word.state s.word channel = .signalled ∨ Word.state s.word channel = .queued)) ↔
        channel < inboundBase ∨ Word.state s.word channel = .free ∨
          Word.state s.word channel = .acknowledged := by
      rw [not_and_or, Nat.not_le, hstates]
    rw [hrespond, hungranted]

/-- An answer on the first channel of a chip whose firmware has just started:
    the channel is outbound and free, and is written to. -/
theorem buffer_ownership_booted :
    ∃ mb w', connect Soc.platform .standard ⟨Soc.booted, []⟩ = .ok mb w' ∧
      Word.state Soc.booted.word 0 = .free ∧
      Soc.Touched 0 0 Soc.booted
        (runStep Soc.booted ((Operation.respond 0 5#32 [1#8]).run (fun _ => none) mb)).after := by
  rcases exists_connect_booted with ⟨mb, w', hconnect⟩
  have hownership := buffer_ownership rfl rfl hconnect (fun _ => none) Soc.booted 0
  have hplace : Soc.booted.placeOf 0 = 0 := by decide
  -- The memory is empty when the firmware starts, so the code is a new one.
  have hcode : Soc.booted.dram.loadWord (0 + codeOffset) ≠ 5#32 := by decide +kernel
  have htouched := (hownership.2.1 5#32 [1#8]).mpr
    ⟨by decide, by decide, Or.inl (by rw [hplace]; exact hcode)⟩
  rw [hplace] at htouched
  exact ⟨mb, w', hconnect, by decide, htouched⟩

end Mailbox

end BpmpMailbox
