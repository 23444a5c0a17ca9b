import BpmpMailbox.Proofs.Refusals
import BpmpMailbox.Proofs.Widths

/-!
# Operations that always answer

An operation on a channel crosses many places that could stop the machine: the
assertion before a release, the two about masks, the guards of windows, byte
accesses to registers, ends of tables, and every sum and shift. A caller cannot
prevent any of these, for it chooses an index, a code, flags and bytes, and the
word and the memory are what both sides and all the windows over them have
made of them. So the operations have to answer whatever they find, and nothing
is asked here of the state of the chip: it need not be one that the protocol
leads to.

They do answer, with one exception that is meant. A release on its own says
that the caller knows the channel to be acknowledged, and it stops when that is
not so, after one look at the word and before any write. An acknowledgement and
a collection contain a release too, and both have seen to it that theirs finds
the state it asks for.

## Main definitions

* `Answers`: An action comes to a result or a refusal.
* `Mailbox.Total`: Every operation of a mailbox answers, but for a release that it guards.

## Theorems

* `SemaphoreCall.exists_reply`: Every call of the semaphore but a release comes to its reply.
* `Semaphore.release_guarded`: A release stops exactly when the channel is not acknowledged.
* `Mailbox.operations_total`: All operations of every mailbox that was connected.
-/

namespace BpmpMailbox

open Script (runStep)

/-- The action comes to an answer, be it a result or a refusal. -/
def Answers {α : Type} (s : Soc) (act : Action Soc α) : Prop :=
  ∀ f, (runStep s act).result ≠ .error (.fault f)

theorem Mailbox.RefusedFor.answers {α : Type} {mb : Mailbox} {s : Soc} {act : Action Soc α}
    {reason? : Option Refusal} (h : mb.RefusedFor s act reason?) : Answers s act := by
  intro f hf
  rcases (h.fails_iff _).mp hf with ⟨reason, -, hstop⟩
  cases hstop

section

variable {region : Region} (hr : region.kind = .semaphore)

include hr

/-- A question whether a channel is in a state has its answer for every index. -/
theorem Semaphore.exists_inState (channel : Nat) (state : ChannelState) (w : World Soc) :
    ∃ value w', (⟨Soc.platform.bus region⟩ : Semaphore Soc).inState channel state w =
      .ok value w' := by
  rcases Nat.lt_or_ge channel channelCount with h | h
  · exact ⟨_, _, Semaphore.inState_run hr h state w⟩
  · exact ⟨_, _, Semaphore.inState_outside _ h w state⟩

/-- Every call but a release comes to its reply, whatever the word and the index. -/
theorem SemaphoreCall.exists_reply {call : SemaphoreCall}
    (hcall : ∀ channel, call ≠ .release channel) (w : World Soc) :
    ∃ reply w', call.run ⟨Soc.platform.bus region⟩ w = .ok reply w' := by
  cases call with
  | status => exact ⟨_, _, bind_ok (Semaphore.status_run hr w)⟩
  | state channel =>
      rcases Nat.lt_or_ge channel channelCount with h | h
      · exact ⟨_, _, bind_ok (Semaphore.state?_run hr h w)⟩
      · exact ⟨_, _, bind_ok (Semaphore.state?_outside _ h w)⟩
  | isFree channel =>
      rcases Semaphore.exists_inState hr channel .free w with ⟨_, _, hrun⟩
      exact ⟨_, _, bind_ok hrun⟩
  | isSignalled channel =>
      rcases Semaphore.exists_inState hr channel .signalled w with ⟨_, _, hrun⟩
      exact ⟨_, _, bind_ok hrun⟩
  | isAcknowledged channel =>
      rcases Semaphore.exists_inState hr channel .acknowledged w with ⟨_, _, hrun⟩
      exact ⟨_, _, bind_ok hrun⟩
  | signal channel =>
      rcases Nat.lt_or_ge channel channelCount with h | h
      · exact ⟨_, _, bind_ok (Semaphore.signal_run hr h w)⟩
      · exact ⟨_, _, bind_ok (Semaphore.onChannel_outside _ h _ w)⟩
  -- The release inside finds the state that the same call has set before it.
  | acknowledge channel flags =>
      rcases Nat.lt_or_ge channel channelCount with h | h
      · exact ⟨_, _, bind_ok (Semaphore.acknowledge_run hr h flags w)⟩
      · exact ⟨_, _, bind_ok (Semaphore.onChannel_outside _ h _ w)⟩
  | release channel => exact absurd rfl (hcall channel)

/-- A release is carried out when the channel is acknowledged, ignored past the
    last channel, and stopped otherwise. -/
theorem Semaphore.release_guarded (s : Soc) (channel : Nat) :
    Guarded s ((⟨Soc.platform.bus region⟩ : Semaphore Soc).release channel)
      (channelCount ≤ channel ∨ Word.state s.word channel = .acknowledged)
      (.releaseOutsideAck channel) ()
      (if channel < channelCount then s.clearBits (releaseBits channel) else s) := by
  rcases Nat.lt_or_ge channel channelCount with h | h
  · rw [if_pos h]
    refine Guarded.of_cases (fun hin => ?_) fun hout => ?_
    · have hs := hin.resolve_left (Nat.not_le.mpr h)
      exact ⟨_, Semaphore.release_run hr h ⟨s, []⟩ hs⟩
    · exact ⟨_, Semaphore.release_fault hr h ⟨s, []⟩ (not_or.mp hout).2⟩
  · rw [if_neg (Nat.not_lt.mpr h)]
    exact Guarded.of_cases (fun _ => ⟨_, Semaphore.onChannel_outside _ h _ ⟨s, []⟩⟩)
      fun hout => absurd (Or.inl h) hout

/-- A release that stops has looked at the word and made no other call. -/
theorem Semaphore.calls_release_fault (s : Soc) {channel : Nat} (h : channel < channelCount)
    (hs : Word.state s.word channel ≠ .acknowledged) :
    Event.calls (runStep s ((⟨Soc.platform.bus region⟩ : Semaphore Soc).release channel)).events =
      [.access region (.read statusPort)] := by
  rw [runStep_error (Semaphore.release_fault hr h ⟨s, []⟩ hs)]
  rfl

end

namespace Mailbox

/-- Whatever a caller passes, every operation of the mailbox answers on this
    state of the chip; but a release stops when the channel is not acknowledged,
    and nothing has been written then. No result on the way has left its width. -/
structure Total (mb : Mailbox) (s : Soc) : Prop where
  send : ∀ channel code flags payload, Answers s (mb.send Soc.platform channel code flags payload)
  collect : ∀ channel buffer, Answers s (mb.collect Soc.platform channel buffer)
  respond : ∀ channel code data, Answers s (mb.respond Soc.platform channel code data)
  /-- The calls of the semaphore are not even refused. -/
  semaphore : ∀ call : SemaphoreCall, (∀ channel, call ≠ .release channel) →
    ∃ reply, (runStep s (call.run (mb.semaphore Soc.platform))).result = .ok reply
  release : ∀ channel, Guarded s ((mb.semaphore Soc.platform).release channel)
    (channelCount ≤ channel ∨ Word.state s.word channel = .acknowledged)
    (.releaseOutsideAck channel) ()
    (if channel < channelCount then s.clearBits (releaseBits channel) else s)
  releaseCalls : ∀ channel < channelCount, Word.state s.word channel ≠ .acknowledged →
    Event.calls (runStep s ((mb.semaphore Soc.platform).release channel)).events =
      [.access mb.semaphoreRegion (.read statusPort)]
  shifts : ∀ call : SemaphoreCall,
    Checked.run (mb.semaphore Soc.platform) call = call.run (mb.semaphore Soc.platform)
  differences : ∀ index, Checked.ofIndex? index = .ok (Channel.ofIndex? index)
  sums : ∀ region ∈ mb.semaphoreRegion :: mb.areas.windows,
    Checked.regionBus region = Soc.regionBus region

/-- Every region of a connected mailbox is the semaphore or lies inside the memory. -/
theorem Placed.inside {mb : Mailbox} {places : Fin channelCount → Nat} (hmb : mb.Placed places)
    (hlen : mb.areas.windows.length = channelCount) :
    ∀ region ∈ mb.semaphoreRegion :: mb.areas.windows, ∀ offset size,
      region.kind = .dram offset size → offset + size ≤ dramSize := by
  intro region hmem offset size hkind
  rcases List.mem_cons.mp hmem with rfl | hmem
  · rw [hmb.semaphore] at hkind
    cases hkind
  · -- The window has the number of a channel, and is the one that was placed for it.
    rcases List.getElem_of_mem hmem with ⟨i, hi, hget⟩
    rcases hmb.window ⟨i, hlen ▸ hi⟩ with ⟨placed, hplaced, size', hkind', -, hin⟩
    have hsame : placed = region := by
      rw [AreaTable.outbound?, List.getElem?_eq_getElem hi, hget] at hplaced
      exact (Option.some.inj hplaced).symm
    rw [hsame, hkind] at hkind'
    injection hkind' with hoffset hsize
    rw [hoffset, hsize]
    exact hin

/-- The operations of every mailbox that was connected answer, on every state
    of the chip, wherever the windows lie and whatever the word and the memory
    hold. -/
theorem operations_total {config : Configuration} (hdiscovery : config.discoveryBlock = 0)
    (hsemaphore : config.semaphoreBlock = 1) {mb : Mailbox} {w w' : World Soc}
    (hconnect : connect Soc.platform config w = .ok mb w') (s : Soc) : mb.Total s := by
  have hplaced := (placed_of_connect hdiscovery hsemaphore hconnect).1
  have hinside := hplaced.inside (length_windows_of_connect hconnect)
  have hsem := hplaced.semaphore
  exact {
    send := fun channel code flags payload =>
      (hplaced.send_refusedFor s channel code flags payload).answers
    collect := fun channel buffer => (hplaced.collect_refusedFor s channel buffer).answers
    respond := fun channel code data => (hplaced.respond_refusedFor s channel code data).answers
    semaphore := fun call hcall => by
      rcases SemaphoreCall.exists_reply hsem hcall ⟨s, []⟩ with ⟨reply, w', hrun⟩
      exact ⟨reply, by rw [semaphore, runStep_ok hrun]⟩
    release := Semaphore.release_guarded hsem s
    releaseCalls := fun channel h hs => Semaphore.calls_release_fault hsem s h hs
    shifts := Checked.run_eq _
    differences := Checked.ofIndex?_eq
    sums := fun region hmem => Checked.regionBus_eq (hinside region hmem) }

/-- A channel that is free is not one to release, and the attempt has changed nothing. -/
theorem operations_total_booted :
    ∃ mb w', connect Soc.platform .standard ⟨Soc.booted, []⟩ = .ok mb w' ∧
      (runStep Soc.booted ((mb.semaphore Soc.platform).release 0)).result =
        .error (.fault (.releaseOutsideAck 0)) ∧
      (runStep Soc.booted ((mb.semaphore Soc.platform).release 0)).after = Soc.booted := by
  rcases exists_connect_booted with ⟨mb, w', hconnect⟩
  have htotal := operations_total rfl rfl hconnect Soc.booted
  exact ⟨mb, w', hconnect, (htotal.release 0).stopped (by decide)⟩

end Mailbox

end BpmpMailbox
