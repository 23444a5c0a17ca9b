import BpmpMailbox.Proofs.CallerBuffer
import BpmpMailbox.Script.Step

/-!
# When an operation is refused

A request, a collection and a response are checked before they do anything,
and the checks are made in an order: is there such a channel for this, is it
this side's turn on it, does the message fit. What is reported is the first
check that fails. The order is not the same for all three, and some of the
checks are made in the middle of an operation, by the functions that it calls.
So the reasons are written down here as functions of the word and of what the
caller has passed, and the operations are proved to stop for these reasons and
for no others; in particular none of them ever ends in a fault.

Whatever the reason, all that has happened is that the semaphore word was read.
The chip is the one that it was, and nothing was copied out of an area, which
is the only way in which bytes get into the buffer of a collection. What is
said of an action on the chip is said of any hardware, so it can be said of the
chip with a caller's buffer beside it, and then that the hardware is unchanged
means that the buffer is as well.

## Main definitions

* `Mailbox.sendRefusal?`, `Mailbox.collectRefusal?`, `Mailbox.respondRefusal?`: The reason for
  which an operation is refused, if there is one.
* `Mailbox.RefusedFor`: An action is refused for the reason given and leaves no trace of itself,
  or comes to its end if none is given.

## Theorems

* `Mailbox.Placed.send_refusedFor`, `Mailbox.Placed.collect_refusedFor`,
  `Mailbox.Placed.respond_refusedFor`: Each of the three operations.
* `Mailbox.Placed.collectInto_refusedFor`: The collection, with its caller's buffer.
* `Mailbox.refusals_exact`: All of them, for every mailbox that was connected.
-/

namespace BpmpMailbox

open Script (runStep)

namespace Mailbox

/-- The reason for which a request is refused. -/
def sendRefusal? (word : Word) (channel : Nat) (payload : List Byte) : Option Refusal :=
  if inboundBase ≤ channel then some (.invalidChannel channel)
  else if Word.state word channel ≠ .free then
    some (.channelBusy channel (Word.state word channel))
  else if payloadSize < payload.length then
    some (.payloadTooLarge payload.length payloadSize)
  else none

/-- The reason for which a collection is refused. The buffer is no reason: one
    of any size will do. -/
def collectRefusal? (word : Word) (channel : Nat) : Option Refusal :=
  if inboundBase ≤ channel then some (.invalidChannel channel)
  else if Word.state word channel ≠ .acknowledged then
    some (.channelBusy channel (Word.state word channel))
  else none

/-- The reason for which a response is refused. The state is no reason: a
    response is accepted on every channel and at any time. -/
def respondRefusal? (channel : Nat) (data : List Byte) : Option Refusal :=
  if channelCount ≤ channel then some (.invalidChannel channel)
  else if payloadSize < data.length then some (.payloadTooLarge data.length payloadSize)
  else none

theorem sendRefusal?_eq_none_iff (word : Word) (channel : Nat) (payload : List Byte) :
    sendRefusal? word channel payload = none ↔
      channel < inboundBase ∧ Word.state word channel = .free ∧ payload.length ≤ payloadSize := by
  unfold sendRefusal?
  grind

theorem collectRefusal?_eq_none_iff (word : Word) (channel : Nat) :
    collectRefusal? word channel = none ↔
      channel < inboundBase ∧ Word.state word channel = .acknowledged := by
  unfold collectRefusal?
  grind

/-- The three things that a collection can find. -/
theorem collectRefusal?_cases (word : Word) (channel : Nat) :
    inboundBase ≤ channel ∧ collectRefusal? word channel = some (.invalidChannel channel) ∨
      channel < inboundBase ∧ (Word.state word channel = .acknowledged ∧
          collectRefusal? word channel = none ∨
        Word.state word channel ≠ .acknowledged ∧ collectRefusal? word channel =
          some (.channelBusy channel (Word.state word channel))) := by
  unfold collectRefusal?
  by_cases hin : inboundBase ≤ channel
  · exact Or.inl ⟨hin, if_pos hin⟩
  · rw [if_neg hin]
    refine Or.inr ⟨Nat.not_le.mp hin, ?_⟩
    by_cases hacked : Word.state word channel = .acknowledged
    · exact Or.inl ⟨hacked, if_neg (not_not.mpr hacked)⟩
    · exact Or.inr ⟨hacked, if_pos hacked⟩

theorem respondRefusal?_eq_none_iff (channel : Nat) (data : List Byte) :
    respondRefusal? channel data = none ↔
      channel < channelCount ∧ data.length ≤ payloadSize := by
  unfold respondRefusal?
  grind

/-- The action is refused for the reason given, or comes to its end if none is
    given. A refused one has left the hardware as it was, and has made no
    hardware call but the read of the semaphore word. -/
structure RefusedFor {σ α : Type} (mb : Mailbox) (s : σ) (act : Action σ α)
    (reason? : Option Refusal) : Prop where
  fails_iff : ∀ stop, (runStep s act).result = .error stop ↔
    ∃ reason, reason? = some reason ∧ stop = .refused reason
  unchanged : ∀ stop, (runStep s act).result = .error stop → (runStep s act).after = s
  onlyStatus : ∀ stop, (runStep s act).result = .error stop →
    ∀ call ∈ Event.calls (runStep s act).events,
      call = .access mb.semaphoreRegion (.read statusPort)

namespace RefusedFor

variable {σ α : Type} {mb : Mailbox} {s : σ} {act : Action σ α}

theorem of_ok {a : α} {w : World σ} (h : act ⟨s, []⟩ = .ok a w) : mb.RefusedFor s act none := by
  have hresult : (runStep s act).result = .ok a := by rw [runStep_ok h]
  have hnever : ∀ stop, (runStep s act).result ≠ .error stop := by
    intro stop hstop
    rw [hresult] at hstop
    cases hstop
  refine ⟨fun stop => iff_of_false (hnever stop) ?_, fun stop h => absurd h (hnever stop),
    fun stop h => absurd h (hnever stop)⟩
  rintro ⟨reason, hreason, -⟩
  cases hreason

theorem of_refused {reason : Refusal} {events : List Event}
    (h : act ⟨s, []⟩ = .error (.refused reason) (World.moved ⟨s, []⟩ s events))
    (hcalls : ∀ call ∈ Event.calls events, call = .access mb.semaphoreRegion (.read statusPort)) :
    mb.RefusedFor s act (some reason) := by
  have hstep := runStep_error h
  refine ⟨fun stop => ?_, fun _ _ => by rw [hstep, World.moved_hardware], fun _ _ call hcall => ?_⟩
  · rw [hstep]
    constructor
    · intro hstop
      exact ⟨reason, rfl, (Except.error.inj hstop).symm⟩
    · rintro ⟨_, hreason, rfl⟩
      rw [Option.some.inj hreason]
  · rw [hstep, World.moved, List.nil_append] at hcall
    exact hcalls call hcall

/-- An action that came to its end had no reason to be refused. -/
theorem eq_none {reason? : Option Refusal} (h : mb.RefusedFor s act reason?) {a : α}
    (hok : (runStep s act).result = .ok a) : reason? = none := by
  cases reason? with
  | none => rfl
  | some reason =>
      have hfails := (h.fails_iff _).mpr ⟨reason, rfl, rfl⟩
      rw [hok] at hfails
      cases hfails

/-- An action that there is no reason to refuse comes to its end. -/
theorem exists_ok (h : mb.RefusedFor s act none) : ∃ a, (runStep s act).result = .ok a := by
  cases hresult : (runStep s act).result with
  | ok a => exact ⟨a, rfl⟩
  | error stop =>
      rcases (h.fails_iff stop).mp hresult with ⟨reason, hreason, -⟩
      cases hreason

end RefusedFor

/-- The read that finds out a state is all that a refusal can have done. -/
theorem calls_statusRead (mb : Mailbox) : ∀ call ∈ Event.calls [mb.statusRead],
    call = .access mb.semaphoreRegion (.read statusPort) := by
  intro call hcall
  exact List.mem_singleton.mp hcall

theorem calls_log (mb : Mailbox) (record : LogRecord) : ∀ call ∈ Event.calls [.log record],
    call = .access mb.semaphoreRegion (.read statusPort) := by
  intro call hcall
  cases hcall

namespace Placed

variable {mb : Mailbox} {places : Fin channelCount → Nat} (hmb : mb.Placed places) (s : Soc)
  (channel : Nat)

include hmb

theorem send_refusedFor (code : Code) (flags : MessageFlags) (payload : List Byte) :
    mb.RefusedFor s (mb.send Soc.platform channel code flags payload)
      (sendRefusal? s.word channel payload) := by
  unfold sendRefusal?
  by_cases hin : inboundBase ≤ channel
  · rw [if_pos hin]
    -- Nothing at all was called, not even the semaphore.
    have hrun : mb.send Soc.platform channel code flags payload ⟨s, []⟩ =
        .error (.refused (.invalidChannel channel)) (World.moved ⟨s, []⟩ s []) :=
      send_notOutbound Soc.platform mb hin code flags payload ⟨s, []⟩
    exact RefusedFor.of_refused hrun (List.forall_mem_nil _)
  have hout := Nat.not_le.mp hin
  rcases hmb.window ⟨channel, Nat.lt_trans hout (by decide)⟩ with ⟨region, hreg, hplace⟩
  rw [if_neg hin]
  by_cases hfree : Word.state s.word channel = .free
  · rw [if_neg (not_not.mpr hfree)]
    by_cases hlen : payloadSize < payload.length
    · rw [if_pos hlen]
      exact RefusedFor.of_refused
        (send_tooLarge hmb.semaphore hreg hout code flags ⟨s, []⟩ hfree hlen) mb.calls_statusRead
    · rw [if_neg hlen]
      exact RefusedFor.of_ok (send_run hmb.semaphore hreg hout hplace code flags ⟨s, []⟩ hfree
        (Nat.not_lt.mp hlen))
  · rw [if_pos hfree]
    exact RefusedFor.of_refused (send_busy hmb.semaphore hreg hout code flags payload ⟨s, []⟩ hfree)
      mb.calls_statusRead

theorem collect_refusedFor (buffer : List Byte) :
    mb.RefusedFor s (mb.collect Soc.platform channel buffer) (collectRefusal? s.word channel) := by
  rcases collectRefusal?_cases s.word channel with ⟨hin, hreason⟩ | ⟨hout, hstate⟩
  · have hrun : mb.collect Soc.platform channel buffer ⟨s, []⟩ =
        .error (.refused (.invalidChannel channel)) (World.moved ⟨s, []⟩ s []) :=
      collect_notOutbound Soc.platform mb hin buffer ⟨s, []⟩
    rw [hreason]
    exact RefusedFor.of_refused hrun (List.forall_mem_nil _)
  · rcases hmb.window ⟨channel, Nat.lt_trans hout (by decide)⟩ with ⟨region, hreg, hplace⟩
    rcases hstate with ⟨hacked, hreason⟩ | ⟨hbusy, hreason⟩
    · rw [hreason]
      exact RefusedFor.of_ok (collect_run hmb.semaphore hreg hout hplace buffer ⟨s, []⟩ hacked)
    · rw [hreason]
      exact RefusedFor.of_refused (collect_busy hmb.semaphore hreg hout buffer ⟨s, []⟩ hbusy)
        mb.calls_statusRead

/-- A collection is refused for the same reasons when the buffer lies beside the
    chip, and then neither has changed. -/
theorem collectInto_refusedFor (buffer : List Byte) :
    mb.RefusedFor (s, buffer) (mb.collectInto Soc.platform channel)
      (collectRefusal? s.word channel) := by
  rcases collectRefusal?_cases s.word channel with ⟨hin, hreason⟩ | ⟨hout, hstate⟩
  · have hrun : mb.collectInto Soc.platform channel ⟨(s, buffer), []⟩ =
        .error (.refused (.invalidChannel channel))
          (World.moved ⟨(s, buffer), []⟩ (s, buffer) []) :=
      collectInto_notOutbound Soc.platform mb hin buffer ⟨s, []⟩
    rw [hreason]
    exact RefusedFor.of_refused hrun (List.forall_mem_nil _)
  · rcases hmb.window ⟨channel, Nat.lt_trans hout (by decide)⟩ with ⟨region, hreg, hplace⟩
    rcases hstate with ⟨hacked, hreason⟩ | ⟨hbusy, hreason⟩
    · rw [hreason]
      exact RefusedFor.of_ok (collectInto_ok Soc.platform mb
        (collect_run hmb.semaphore hreg hout hplace buffer ⟨s, []⟩ hacked))
    · rw [hreason]
      exact RefusedFor.of_refused (collectInto_busy hmb.semaphore hreg hout buffer ⟨s, []⟩ hbusy)
        mb.calls_statusRead

theorem respond_refusedFor (code : Code) (data : List Byte) :
    mb.RefusedFor s (mb.respond Soc.platform channel code data)
      (respondRefusal? channel data) := by
  unfold respondRefusal?
  by_cases hout : channelCount ≤ channel
  · rw [if_pos hout]
    exact RefusedFor.of_refused (respond_outside Soc.platform mb hout code data ⟨s, []⟩)
      (mb.calls_log _)
  have hlt := Nat.not_le.mp hout
  rcases hmb.window ⟨channel, hlt⟩ with ⟨region, hreg, hplace⟩
  rw [if_neg hout]
  by_cases hlen : payloadSize < data.length
  · rw [if_pos hlen]
    exact RefusedFor.of_refused (respond_tooLarge mb hlt code hlen ⟨s, []⟩) (mb.calls_log _)
  · rw [if_neg hlen]
    exact RefusedFor.of_ok
      (respond_run hmb.semaphore hreg hlt hplace code (Nat.not_lt.mp hlen) ⟨s, []⟩)

end Placed

/-- The three operations on messages are refused for the first of their
    reasons that applies, and stop for nothing else; and a refusal has changed
    nothing, be it on the chip or in the buffer of a collection. This holds of
    every mailbox that was connected and on every state of the chip, wherever
    the windows lie. -/
theorem refusals_exact {config : Configuration} (hdiscovery : config.discoveryBlock = 0)
    (hsemaphore : config.semaphoreBlock = 1) {mb : Mailbox} {w w' : World Soc}
    (hconnect : connect Soc.platform config w = .ok mb w') (s : Soc) (channel : Nat) :
    (∀ code flags payload, mb.RefusedFor s (mb.send Soc.platform channel code flags payload)
      (sendRefusal? s.word channel payload)) ∧
    (∀ buffer, mb.RefusedFor s (mb.collect Soc.platform channel buffer)
      (collectRefusal? s.word channel)) ∧
    (∀ code data, mb.RefusedFor s (mb.respond Soc.platform channel code data)
      (respondRefusal? channel data)) ∧
    (∀ buffer, mb.RefusedFor (s, buffer) (mb.collectInto Soc.platform channel)
        (collectRefusal? s.word channel) ∧
      ∀ code count filled v,
        mb.collect Soc.platform channel buffer ⟨s, []⟩ = .ok (code, count, filled) v →
          mb.collectInto Soc.platform channel ⟨(s, buffer), []⟩ =
            .ok (code, count) (v.beside filled)) := by
  have hplaced := (placed_of_connect hdiscovery hsemaphore hconnect).1
  exact ⟨hplaced.send_refusedFor s channel, hplaced.collect_refusedFor s channel,
    hplaced.respond_refusedFor s channel, fun buffer =>
      ⟨hplaced.collectInto_refusedFor s channel buffer, fun _ _ _ _ => collectInto_ok _ mb⟩⟩

/-- On a chip whose firmware has just started every outbound channel is free.
    There is nothing to collect on the first of them, a buffer of two bytes keeps
    both, and the last of them takes no request of 121 bytes. -/
theorem refusals_exact_booted :
    ∃ mb w', connect Soc.platform .standard ⟨Soc.booted, []⟩ = .ok mb w' ∧
      (runStep (Soc.booted, [1#8, 2#8]) (mb.collectInto Soc.platform 0)).result =
        .error (.refused (.channelBusy 0 .free)) ∧
      (runStep (Soc.booted, [1#8, 2#8]) (mb.collectInto Soc.platform 0)).after =
        (Soc.booted, [1#8, 2#8]) ∧
      (runStep Soc.booted (mb.collect Soc.platform 0 [1#8, 2#8])).result =
        .error (.refused (.channelBusy 0 .free)) ∧
      (runStep Soc.booted
        (mb.send Soc.platform 7 5#32 .empty (List.replicate 121 0#8))).result =
          .error (.refused (.payloadTooLarge 121 120)) := by
  rcases exists_connect_booted with ⟨mb, w', hconnect⟩
  have hfirst := refusals_exact rfl rfl hconnect Soc.booted 0
  have hlast := refusals_exact rfl rfl hconnect Soc.booted 7
  have hkept := (hfirst.2.2.2 [1#8, 2#8]).1
  have hrefused := (hkept.fails_iff _).mpr ⟨.channelBusy 0 .free, by decide, rfl⟩
  exact ⟨mb, w', hconnect, hrefused, hkept.unchanged _ hrefused,
    ((hfirst.2.1 [1#8, 2#8]).fails_iff _).mpr ⟨_, by decide, rfl⟩,
    ((hlast.1 5#32 .empty (List.replicate 121 0#8)).fails_iff _).mpr
      ⟨_, by decide +kernel, rfl⟩⟩

end Mailbox

end BpmpMailbox
