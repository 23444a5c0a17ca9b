import BpmpMailbox.Proofs.History
import BpmpMailbox.Proofs.Holding
import BpmpMailbox.Proofs.Upkeep

/-!
# The word as a sign of readiness

The firmware publishes the handshake by making the word something other than
zero, and a bring-up that finds zero is refused as too early. But the word has
no bit for this alone. It is the states of the channels, and the state in which
a channel waits for its slave has the code zero; the eight bits that belong to
no channel are zero from the start and nobody sets them. So the word is zero
again, and the chip looks as if its firmware had never started, exactly when
every channel waits for its slave.

Nothing in the protocol keeps the channels from all waiting at once. Each one
is free when the firmware starts, and takes one request to wait: eight of the
processor and four of the firmware bring a chip there, each of them in order.
The handlers of the doorbells may interfere, but only by operations on channels,
so whatever they do the word is zero in these states and in no others.

## Main definitions

* `Readiness.Allowed`: The rule for both sides, on every channel.
* `Readiness.request`: The request that makes a free channel wait.

## Theorems

* `Word.eq_zero_iff`: A word without spare bits is zero when every channel waits.
* `Run.kept_of_placed`: Whatever handlers do, a run changes channels and nothing else.
* `Mailbox.connect_notReady_iff`: A bring-up is refused as too early when the word is zero.
* `Readiness.exists_all_signalled`: A run in order leads to a state in which every channel waits.
* `Readiness.notReady_iff_all_signalled`: The chip looks as if it had not started when every
  channel waits.
-/

namespace BpmpMailbox

open Script (Reply runStep)

/-- Without spare bits the word is zero when every channel waits for its slave. -/
theorem Word.eq_zero_iff {w : Word} (hspare : w &&& spareBits = 0#32) :
    w = 0#32 ↔ ∀ channel : Fin channelCount, state w channel = .signalled := by
  constructor
  · rintro rfl
    decide
  · intro h
    have hzero : ∀ channel : Fin channelCount,
        ChannelState.signalled.toField = field 0#32 channel := by decide
    apply eq_of_fields
    · intro channel
      rw [field_eq_toField, h channel, hzero channel]
    · rw [hspare, BitVec.zero_and]

section Handlers

variable {l : Layout} {s : Soc} {mb : Mailbox} (hmb : mb.Placed l.place)

include hmb

namespace Mailbox

theorem send_kept (channel : Nat) (code : Code) (flags : MessageFlags) (payload : List Byte) :
    Maintains (fun w => s.Kept l w.hardware) (mb.send Soc.platform channel code flags payload) := by
  intro w hw
  rcases hmb.send_cases channel code flags payload w with
    ⟨e, events, hsend⟩ | ⟨hlt, events, hlen, hsend⟩ <;> rw [hsend]
  · exact hw
  · exact hw.trans (Soc.Kept.of_changedOn (Soc.changedOn_sent w.hardware ⟨channel, hlt⟩ _ code
      flags mb.config.doorbellLine hlen))

theorem respond_kept (channel : Nat) (code : Code) (data : List Byte) :
    Maintains (fun w => s.Kept l w.hardware) (mb.respond Soc.platform channel code data) := by
  intro w hw
  rcases hmb.respond_cases channel code data w with
    ⟨e, events, hrespond, -⟩ | ⟨hlt, region, hlen, hrespond⟩ <;> rw [hrespond]
  · exact hw
  · exact hw.trans (Soc.Kept.of_changedOn (Soc.changedOn_responded w.hardware ⟨channel, hlt⟩ _
      code _ mb.config.doorbellLine hlen))

/-- What handlers do with a mailbox changes channels and nothing else. -/
theorem serves_kept : mb.Serves fun w => s.Kept l w.hardware where
  semaphore := Soc.bus_readsMaintain fun _ => Ends.note fun _ hw => hw
  window _ _ := Soc.bus_readsMaintain fun _ => Ends.note fun _ hw => hw
  send := send_kept hmb
  respond := respond_kept hmb

end Mailbox

end Handlers

section Steps

variable {l : Layout} {s start : Soc} {mb : Mailbox} {mailbox? : Nat → Option Mailbox}
  (hmb : mb.Placed l.place)
  (hmailboxes : ∀ number other, mailbox? number = some other → other.Placed l.place)

include hmailboxes

/-- A post changes its channel, and lets the handler of the core change others. -/
theorem Firmware.post_kept (hs : s.PlacedAt l) (core : Nat) (code : Code) (flags : MessageFlags)
    (data : List Byte) :
    Maintains (fun w => s.Kept l w.hardware) (post mailbox? core code flags data) := by
  have hfire := Soc.fire_maintains (fun number other hother =>
    Mailbox.serves_kept (s := s) (hmailboxes number other hother))
    (fun _ _ _ => Ends.note fun _ hw => hw) (fun _ => Ends.log fun _ hw => hw) core
  intro w hw
  by_cases hcore : core < coreCount
  · by_cases hlen : payloadSize < data.length
    · rw [post_tooLarge mailbox? hcore code flags hlen]
      exact hw
    · have hlt := inboundIndex_lt hcore
      have hplaced := hw.placedAt hs ⟨inboundBase + core, hlt⟩
      rw [post_eq_fire mailbox? hcore (l.inside _) hplaced code flags (Nat.not_lt.mp hlen)]
      -- What the handler finds differs from the chip before by the message and the field.
      have hposted := Soc.changedOn_posted w.hardware ⟨inboundBase + core, hlt⟩
        (l.place ⟨inboundBase + core, hlt⟩) code flags (Nat.not_lt.mp hlen)
      exact hfire _ (hw.trans (Soc.Kept.of_changedOn hposted))
  · rw [post_outside mailbox? (Nat.not_lt.mp hcore)]
    exact hw

include hmb

/-- Whatever the handlers do, an operation changes channels and nothing else. -/
theorem Operation.runStep_kept (hs : s.PlacedAt l) (op : Operation) :
    s.Kept l (runStep s (op.run mailbox? mb)).after := by
  by_cases hraises : op.raisesDoorbell = true
  · cases op with
    | post core code flags data =>
        have hpost : Maintains (fun w => s.Kept l w.hardware)
            ((Operation.post core code flags data).run mailbox? mb) :=
          .bind (Firmware.post_kept hmailboxes hs core code flags data) fun _ => .pure
        have hafter := hpost ⟨s, []⟩ (Soc.Kept.refl l s)
        unfold runStep
        split <;> rename_i hact <;> rw [hact] at hafter <;> exact hafter
    | _ => cases hraises
  · exact Soc.Kept.of_confined
      (Operation.runStep_effect mailbox? op hmb hs fun h => absurd h hraises).2

/-- Whatever the handlers do, a run changes channels and nothing else. -/
theorem Run.kept_of_placed (hs : start.PlacedAt l) {allowed : Soc → Operation → Prop}
    {past : List Entry} (h : Run allowed mailbox? mb start past s) : start.Kept l s := by
  induction h with
  | nil => exact Soc.Kept.refl l start
  | snoc op hrun hallowed ih =>
      exact ih.trans (Operation.runStep_kept hmb hmailboxes (ih.placedAt hs) op)

end Steps

namespace Mailbox

section BringUp

variable {discovery semaphore : Region} (hdiscovery : discovery.IsBlock)
  (hsemaphore : semaphore.kind = .semaphore) (window : Nat)

include hdiscovery hsemaphore

/-- A handshake that finds something in the word ends in one of many ways, but
    is not refused as too early. -/
theorem handshake_ends :
    Ends (fun w => w.hardware.word ≠ 0#32)
      (handshake Soc.platform.toMapping (Soc.platform.bus discovery)
        ⟨Soc.platform.bus semaphore⟩ window)
      (fun _ _ => True) (fun e _ => e ≠ .refused .notReady) := by
  intro w hw
  unfold handshake
  rw [bind_ok (Semaphore.status_run hsemaphore w), if_neg hw]
  have hheld : discovery ∈ [discovery] := List.mem_cons_self
  refine ((Custody.word w.hardware.word).areas_ends hheld hdiscovery window).mono
    (fun _ hv => hv) (fun _ _ _ => trivial) ?_ _ rfl
  rintro e v (⟨⟨r, rfl, hr⟩, -⟩ | ⟨⟨f, rfl⟩, -⟩)
  · exact fun he => hr (Stop.refused.inj he)
  · exact nofun

theorem attempt_handshake_ends :
    Ends (fun w => w.hardware.word ≠ 0#32)
      (attempt (handshake Soc.platform.toMapping (Soc.platform.bus discovery)
        ⟨Soc.platform.bus semaphore⟩ window))
      (fun found _ => found ≠ .error .notReady) (fun e _ => e ≠ .refused .notReady) := by
  refine Ends.attempt ((handshake_ends hdiscovery hsemaphore window).mono (fun _ hw => hw)
    (fun _ _ _ => nofun) fun _ _ he => he) (fun e _ he => ?_) fun _ _ _ => nofun
  rintro ⟨⟩
  exact he rfl

end BringUp

/-- With both register blocks there and a window that is large enough, a
    bring-up is refused as too early when the word is zero, and only then. -/
theorem connect_notReady_iff {config : Configuration} (hcheck : config.check = .ok ())
    (hdiscovery : config.discoveryBlock = 0) (hsemaphore : config.semaphoreBlock = 1)
    {w : World Soc} (hpresent : w.hardware.faults.missingBlock = none) :
    (∃ w', connect Soc.platform config w = .error (.refused .notReady) w') ↔
      w.hardware.word = 0#32 := by
  -- Both register blocks are handed out, and the word is still what it was.
  obtain ⟨discovery, v, hfirst, hkind, hword, hfaults⟩ : ∃ discovery v,
      Soc.platform.mapBlock 0 w = .ok (some discovery) v ∧ discovery.kind = .discovery ∧
        v.hardware.word = w.hardware.word ∧ v.hardware.faults = w.hardware.faults :=
    ⟨_, _, Soc.mapBlock_present (Soc.resource_of_present hpresent).1, rfl, rfl, rfl⟩
  obtain ⟨semaphore, v₁, hsecond, hkind₁, hword₁⟩ : ∃ semaphore v₁,
      Soc.platform.mapBlock 1 v = .ok (some semaphore) v₁ ∧ semaphore.kind = .semaphore ∧
        v₁.hardware.word = v.hardware.word :=
    ⟨_, _, Soc.mapBlock_present (Soc.resource_of_present (hfaults ▸ hpresent)).2, rfl, rfl⟩
  rw [← hword, ← hword₁]
  unfold connect
  simp only [hcheck, hdiscovery, hsemaphore]
  rw [bind_ok hfirst]
  simp only
  rw [bind_ok hsecond]
  simp only
  constructor
  · rintro ⟨w', h⟩
    by_contra hne
    refine (?_ : Ends (fun v => v.hardware.word ≠ 0#32) _ (fun _ _ => True)
      (fun e _ => e ≠ .refused .notReady)).stop_of_error hne h rfl
    -- The refusal that is passed on is that of the handshake, which is another one.
    have hfound := attempt_handshake_ends (Or.inl hkind) hkind₁ config.areaWindow
    refine Ends.bind hfound fun found => ?_
    refine Ends.bind (Soc.unmap_keeps _ _) fun _ => ?_
    cases found with
    | ok areas =>
        exact Ends.bind (M := fun _ _ => True) (Ends.log fun _ _ => trivial) fun _ =>
          Ends.pure fun _ _ => trivial
    | error e =>
        refine Ends.bind (Soc.unmap_keeps _ _) fun _ => Ends.refuse fun _ he => ?_
        rintro ⟨⟩
        exact he rfl
  · intro hzero
    rcases handshake_notReady discovery hkind₁ config.areaWindow hzero with ⟨v₂, h⟩
    rw [bind_ok (attempt_refused h), bind_ok (Soc.platform_unmap _ _)]
    simp only
    rw [bind_ok (Soc.platform_unmap _ _), refuse_run]
    exact ⟨_, rfl⟩

end Mailbox

namespace Readiness

/-- What may be done in a state of the chip: the processor sends and collects
    as it likes, and everything else is done when the state of the channel
    calls for it. -/
inductive Allowed (s : Soc) : Operation → Prop where
  | send (channel : Nat) (code : Code) (flags : MessageFlags) (payload : List Byte) :
    Allowed s (.send channel code flags payload)
  | collect (channel : Nat) (buffer : List Byte) : Allowed s (.collect channel buffer)
  | respond {channel : Nat} (code : Code) (data : List Byte)
    (hs : s.state channel = .ok .signalled ∨ s.state channel = .ok .queued) :
    Allowed s (.respond channel code data)
  | queue {channel : Nat} (hs : s.state channel = .ok .signalled) : Allowed s (.queue channel)
  | complete {channel : Nat} (code : Code) (data : List Byte)
    (hs : s.state channel = .ok .signalled ∨ s.state channel = .ok .queued) :
    Allowed s (.complete channel code data)
  | post {core : Nat} (code : Code) (flags : MessageFlags) (data : List Byte)
    (hs : s.state (inboundBase + core) = .ok .free) : Allowed s (.post core code flags data)
  | reclaim {channel : Nat} (hs : s.state channel = .ok .acknowledged) :
    Allowed s (.reclaim channel)

/-- An empty request on a channel, of the side whose turn it is when the channel is free. -/
def request (channel : Nat) : Operation :=
  if channel < inboundBase then .send channel 0#32 .empty []
  else .post (channel - inboundBase) 0#32 .empty []

theorem channel_request (channel : Nat) : (request channel).channel = channel := by
  unfold request
  split
  · rfl
  · exact Nat.add_sub_cancel' (Nat.not_lt.mp ‹_›)

theorem allowed_request {s : Soc} {channel : Nat} (hs : s.state channel = .ok .free) :
    Allowed s (request channel) := by
  unfold request
  split
  · exact .send ..
  · refine .post _ _ _ ?_
    rwa [Nat.add_sub_cancel' (Nat.not_lt.mp ‹_›)]

theorem state_onRecord_request (listening : Nat → Bool) (channel : Nat) {r : Record}
    (hr : r.state = .free) : ((request channel).onRecord listening r).2.state = .signalled := by
  unfold request
  split
  · rename_i hout
    have hempty : ¬ payloadSize < ([] : List Byte).length := Nat.not_lt_zero _
    rw [Operation.onRecord, if_neg (Nat.not_le.mpr hout), if_neg (not_not.mpr hr), if_neg hempty]
  · rw [Operation.onRecord_post listening _ _ _ (Nat.zero_le _)]

/-- A chip on which every channel is free is led, by one request on each, to a
    state in which every channel waits for its slave. -/
theorem exists_all_signalled {l : Layout} {mb : Mailbox} (hmb : mb.Placed l.place) {start : Soc}
    (hs : start.PlacedAt l) (hrecords : start.OnlyRecords)
    (hfree : ∀ channel < channelCount, start.state channel = .ok .free)
    (mailbox? : Nat → Option Mailbox) :
    ∃ past s, Run Allowed mailbox? mb start past s ∧
      ∀ channel < channelCount, s.state channel = .ok .signalled := by
  -- By induction on the number of channels that have had their request, lowest first.
  have hprefix : ∀ n ≤ channelCount, ∃ past s, Run Allowed mailbox? mb start past s ∧
      ∀ channel : Fin channelCount,
        (s.records l channel).state = if channel.val < n then .signalled else .free := by
    intro n
    induction n with
    | zero =>
        intro _
        refine ⟨[], start, .nil, fun channel => ?_⟩
        exact (Soc.state_eq_ok_iff l start channel).mp (hfree channel channel.isLt)
    | succ n ih =>
        intro hn
        rcases ih (Nat.le_of_succ_le hn) with ⟨past, s, hrun, hstates⟩
        have hnext : (s.records l ⟨n, hn⟩).state = .free := by
          rw [hstates, if_neg (Nat.lt_irrefl n)]
        have hallowed := allowed_request ((Soc.state_eq_ok_iff l s ⟨n, hn⟩).mpr hnext)
        have heffect := (hrun.step_effect hmb hs (fun _ _ _ _ => hrecords) hallowed).1
        rw [Operation.effect_inside _ _ ⟨n, hn⟩ (channel_request n)] at heffect
        refine ⟨_, _, hrun.snoc _ hallowed, fun channel => ?_⟩
        have hafter := congrArg Prod.snd heffect
        simp only at hafter
        rw [← hafter]
        by_cases hc : channel = ⟨n, hn⟩
        · subst hc
          simp only [Function.update_self]
          rw [state_onRecord_request _ n hnext, if_pos (Nat.lt_succ_self n)]
        · have hne : channel.val ≠ n := fun h => hc (Fin.ext h)
          simp only [Function.update_of_ne hc]
          rw [hstates]
          by_cases hlt : channel.val < n
          · rw [if_pos hlt, if_pos (Nat.lt_succ_of_lt hlt)]
          · rw [if_neg hlt, if_neg (by omega)]
  rcases hprefix channelCount (Nat.le_refl _) with ⟨past, s, hrun, hstates⟩
  refine ⟨past, s, hrun, fun channel hlt => ?_⟩
  rw [Soc.state_eq_ok_iff l s ⟨channel, hlt⟩, hstates, if_pos hlt]

/-- When a chip whose firmware has started looks as if it had not. In every
    state that is reached in order, whatever the handlers of the doorbells do,
    the word is zero exactly when every channel waits for its slave, and a
    bring-up is then refused as too early, and only then. Such a state is
    reached in order. -/
theorem notReady_iff_all_signalled {config : Configuration}
    (hdiscovery : config.discoveryBlock = 0) (hsemaphore : config.semaphoreBlock = 1)
    {mb : Mailbox} {w w' : World Soc} (hconnect : Mailbox.connect Soc.platform config w = .ok mb w')
    (hboot : w.hardware.addresses = Soc.bootAddresses) {start s : Soc}
    (haddresses : start.addresses = Soc.bootAddresses) (hword : start.word = Soc.freeWord)
    {mailbox? : Nat → Option Mailbox}
    (hmailboxes : ∀ number other, mailbox? number = some other → other.Placed Layout.boot.place)
    {past : List Entry} (hrun : Run Allowed mailbox? mb start past s) :
    (∀ j, ∃ j', (mb.semaphore Soc.platform).status ⟨s, j⟩ = .ok s.word ⟨s, j'⟩) ∧
    (s.word = 0#32 ↔ ∀ channel < channelCount, s.state channel = .ok .signalled) ∧
    (∀ j, (∃ v, Mailbox.connect Soc.platform .standard ⟨{ s with faults := .none }, j⟩ =
        .error (.refused .notReady) v) ↔
      ∀ channel < channelCount, s.state channel = .ok .signalled) ∧
    (start.OnlyRecords → ∃ past s, Run Allowed mailbox? mb start past s ∧
      ∀ channel < channelCount, s.state channel = .ok .signalled) := by
  have hmb := Mailbox.placed_boot hdiscovery hsemaphore hconnect hboot
  have hs := Soc.placedAt_boot haddresses
  have hspare : s.word &&& spareBits = 0#32 := by
    rw [(hrun.kept_of_placed hmb hmailboxes hs).spare, hword]
    decide
  have hzero : s.word = 0#32 ↔ ∀ channel < channelCount, s.state channel = .ok .signalled := by
    rw [Word.eq_zero_iff hspare]
    refine ⟨fun h channel hlt => ?_, fun h channel => ?_⟩
    · rw [Soc.state_eq_ok s channel hlt, h ⟨channel, hlt⟩]
    · exact (Soc.state_eq_ok_iff Layout.boot s channel).mp (h channel channel.isLt)
  refine ⟨fun j => ⟨_, Semaphore.status_run hmb.semaphore ⟨s, j⟩⟩, hzero, fun j => ?_,
    fun hrecords => ?_⟩
  · exact (Mailbox.connect_notReady_iff rfl rfl rfl rfl).trans hzero
  · refine exists_all_signalled hmb hs hrecords (fun channel hlt => ?_) mailbox?
    have hfree : ∀ channel < channelCount, Word.state Soc.freeWord channel = .free := by decide
    rw [Soc.state_eq_ok start channel hlt, hword, hfree channel hlt]

/-- A chip whose firmware has just started comes to look, after one request on
    each channel, as if it had not. -/
theorem notReady_iff_all_signalled_booted :
    ∃ mb w', Mailbox.connect Soc.platform .standard ⟨Soc.booted, []⟩ = .ok mb w' ∧
      ∃ past s, Run Allowed (fun _ => none) mb Soc.booted past s ∧ s.word = 0#32 ∧
        ∃ v, Mailbox.connect Soc.platform .standard ⟨{ s with faults := .none }, []⟩ =
          .error (.refused .notReady) v := by
  rcases Mailbox.exists_connect_booted with ⟨mb, w', hconnect⟩
  have hready : ∀ {past s}, Run Allowed (fun _ => none) mb Soc.booted past s → _ := fun hrun =>
    notReady_iff_all_signalled rfl rfl hconnect rfl rfl rfl (by intro _ _ h; cases h) hrun
  rcases (hready .nil).2.2.2 Soc.onlyRecords_booted with ⟨past, s, hrun, hsignalled⟩
  exact ⟨mb, w', hconnect, past, s, hrun, (hready hrun).2.1.mpr hsignalled,
    ((hready hrun).2.2.1 []).mpr hsignalled⟩

end Readiness

end BpmpMailbox
