import BpmpMailbox.Proofs.History

/-!
# The inbound protocol

On an inbound channel the roles are exchanged: the firmware asks one core, and
the processor answers. The firmware posts when the channel is free and frees
it when its answer is acknowledged; the processor answers when the firmware
has signalled the channel. The rule here binds both sides on inbound channels.
What they do on outbound channels is left open, whether or not it is in order.

The answer is written over the request, into the same message, and the flags
between its code and its payload stay the request's. They say how the answer
is to be announced: whether the channel waits for the firmware to look at it,
and whether a doorbell is rung.

## Main definitions

* `Inbound.Allowed`: The rule.
* `Inbound.Milestone`, `Inbound.milestones`: What has come to pass on a channel.
* `Inbound.Phase`, `Inbound.Exchange`: Whether a request is open, and how that came about.

## Theorems

* `Inbound.exchange_step`: An operation on a channel continues its exchange.
* `Inbound.exists_exchange`: In every run, each channel is in a phase and shows it.
* `Inbound.area_shows`: What the processor reads in the area of a channel.
* `Inbound.respond_after`: What an answer leaves behind.
* `Inbound.requests_answered`: What the protocol promises.
-/

namespace BpmpMailbox

open Script (Reply runStep)

namespace Inbound

/-- What may be done in a state of the chip: anything on outbound channels,
    and on inbound ones what the state of the channel calls for. -/
inductive Allowed (s : Soc) : Operation → Prop where
  | send (channel : Nat) (code : Code) (flags : MessageFlags) (payload : List Byte) :
    Allowed s (.send channel code flags payload)
  | collect (channel : Nat) (buffer : List Byte) : Allowed s (.collect channel buffer)
  | queue {channel : Nat} (hout : channel < inboundBase) : Allowed s (.queue channel)
  | complete {channel : Nat} (code : Code) (data : List Byte) (hout : channel < inboundBase) :
    Allowed s (.complete channel code data)
  | post {core : Nat} (code : Code) (flags : MessageFlags) {data : List Byte}
    (hcore : core < coreCount) (hs : s.state (inboundBase + core) = .ok .free)
    (hlen : data.length ≤ payloadSize) : Allowed s (.post core code flags data)
  | respond {channel : Nat} (code : Code) {data : List Byte} (hin : inboundBase ≤ channel)
    (hlt : channel < channelCount)
    (hs : s.state channel = .ok .signalled ∨ s.state channel = .ok .queued)
    (hlen : data.length ≤ payloadSize) : Allowed s (.respond channel code data)
  | reclaim {channel : Nat} (hin : inboundBase ≤ channel) (hlt : channel < channelCount)
    (hs : s.state channel = .ok .acknowledged) : Allowed s (.reclaim channel)

/-- What comes to pass on an inbound channel. -/
inductive Milestone where
  /-- The firmware posted a request. -/
  | posted (code : Code) (flags : MessageFlags) (data : List Byte)
  /-- It was answered. -/
  | returned (code : Code) (data : List Byte)

/-- The place of a milestone in an exchange. -/
def Milestone.turn : Milestone → Nat
  | .posted .. => 0
  | .returned .. => 1

/-- What an operation that came to its end has brought to pass on a channel. -/
def milestone? (channel : Nat) : Entry → Option Milestone
  | ⟨.post core code flags data, .ok _⟩ =>
    if inboundBase + core = channel then some (.posted code flags data) else none
  | ⟨.respond c code data, .ok _⟩ => if c = channel then some (.returned code data) else none
  | _ => none

/-- What has come to pass on a channel. -/
def milestones (channel : Nat) (past : List Entry) : List Milestone :=
  past.filterMap (milestone? channel)

/-- Whether a request of the firmware is open, and which. -/
inductive Phase where
  | settled
  | posted (code : Code) (flags : MessageFlags) (data : List Byte)

/-- The number of milestones that the exchange has behind it. -/
def Phase.turn : Phase → Nat
  | .settled => 0
  | .posted .. => 1

/-- What the record of a channel looks like in a phase. -/
def Phase.Shown (r : Record) : Phase → Prop
  | .settled => r.state = .free ∨ r.state = .acknowledged
  | .posted code flags data =>
    r.state = .signalled ∧ r.code = code ∧ r.flags = flags ∧ data <+: r.data.bytes

/-- What has come to pass on a channel, and the phase that it has led to. -/
inductive Exchange : List Milestone → Phase → Prop where
  | nil : Exchange [] .settled
  | posted {ms : List Milestone} (code : Code) (flags : MessageFlags) (data : List Byte) :
    Exchange ms .settled → Exchange (ms ++ [.posted code flags data]) (.posted code flags data)
  | returned {ms : List Milestone} {asked : Code} {flags : MessageFlags} {request : List Byte}
    (code : Code) (data : List Byte) :
    Exchange ms (.posted asked flags request) → Exchange (ms ++ [.returned code data]) .settled

section Milestones

theorem milestones_snoc (channel : Nat) (past : List Entry) (e : Entry) :
    milestones channel (past ++ [e]) = milestones channel past ++ (milestone? channel e).toList :=
  filterMap_snoc _ past e

/-- An operation on another channel brings nothing to pass on this one. -/
theorem milestone?_of_ne {channel : Nat} {op : Operation} (hne : op.channel ≠ channel)
    (result : Except Stop Reply) : milestone? channel ⟨op, result⟩ = none := by
  -- A milestone is only made of an operation on the channel itself.
  unfold milestone?
  split <;> grind [Operation.channel]

theorem milestone?_error (channel : Nat) (op : Operation) (e : Stop) :
    milestone? channel ⟨op, .error e⟩ = none := by
  cases op <;> rfl

theorem milestone?_posted {channel core : Nat} (hc : inboundBase + core = channel) (code : Code)
    (flags : MessageFlags) (data : List Byte) (reply : Reply) :
    milestone? channel ⟨.post core code flags data, .ok reply⟩ =
      some (.posted code flags data) := if_pos hc

theorem milestone?_returned (channel : Nat) (code : Code) (data : List Byte) (reply : Reply) :
    milestone? channel ⟨.respond channel code data, .ok reply⟩ = some (.returned code data) :=
  if_pos rfl

/-- Milestones take turns, and the phase tells how many its exchange has behind it. -/
theorem Exchange.turn {ms : List Milestone} {phase : Phase} (h : Exchange ms phase) :
    (∀ i m, ms[i]? = some m → m.turn = i % 2) ∧ ms.length % 2 = phase.turn := by
  -- The number of milestones gives the turn of the next one, and its turn the new phase.
  induction h with
  | nil => exact ⟨(fun i m hm => nomatch hm), rfl⟩
  | posted code flags data _ ih =>
      exact turns_snoc ih.1 ih.2 (by simp only [Milestone.turn, Phase.turn])
  | returned code data _ ih =>
      exact turns_snoc ih.1 ih.2 (by simp only [Milestone.turn, Phase.turn])

/-- A channel on which the firmware acted last has its request open. -/
theorem Exchange.eq_posted {ms : List Milestone} {phase : Phase} (h : Exchange ms phase)
    {code : Code} {flags : MessageFlags} {data : List Byte}
    (hlast : ms.getLast? = some (.posted code flags data)) : phase = .posted code flags data := by
  cases h with
  | nil => cases hlast
  | posted c f d _ =>
      rw [List.getLast?_concat, Option.some.injEq, Milestone.posted.injEq] at hlast
      rcases hlast with ⟨rfl, rfl, rfl⟩
      rfl
  | returned c d _ =>
      rw [List.getLast?_concat] at hlast
      cases hlast

theorem Exchange.getLast?_posted {ms : List Milestone} {code : Code} {flags : MessageFlags}
    {data : List Byte} (h : Exchange ms (.posted code flags data)) :
    ms.getLast? = some (.posted code flags data) := by
  cases h with
  | posted c f d _ => exact List.getLast?_concat

end Milestones

section Step

variable {phase : Phase} {r : Record}

/-- A channel that the firmware may use has no open request. -/
theorem Phase.eq_settled (h : phase.Shown r) (hs : r.state = .free ∨ r.state = .acknowledged) :
    phase = .settled := by
  cases phase with
  | settled => rfl
  | posted code flags data =>
      rw [h.1] at hs
      exact absurd hs (by decide)

/-- A channel that the processor may answer carries a request. -/
theorem Phase.exists_posted (h : phase.Shown r) (hs : r.state = .signalled ∨ r.state = .queued) :
    ∃ code flags data, phase = .posted code flags data := by
  cases phase with
  | settled =>
      rcases h with hfree | hacked
      · rw [hfree] at hs
        exact absurd hs (by decide)
      · rw [hacked] at hs
        exact absurd hs (by decide)
  | posted code flags data => exact ⟨code, flags, data, rfl⟩

/-- An acknowledgement leaves the channel free or acknowledged. -/
theorem settled_eq (flags : MessageFlags) :
    flags.settled = .free ∨ flags.settled = .acknowledged := by
  unfold MessageFlags.settled
  split
  · exact Or.inr rfl
  · exact Or.inl rfl

end Step

/-- The exchange goes on in this way after an operation with this outcome. -/
def Continues (channel : Nat) (ms : List Milestone) (op : Operation)
    (outcome : Except Stop Reply × Record) : Prop :=
  ∃ phase, Exchange (ms ++ (milestone? channel ⟨op, outcome.1⟩).toList) phase ∧
    phase.Shown outcome.2

section Continue

variable {channel : Fin channelCount} {listening : Nat → Bool} {ms : List Milestone}
  {phase : Phase} {r : Record} (hex : Exchange ms phase) (hshown : phase.Shown r)

include hex hshown

theorem continues_error (op : Operation) (e : Stop) :
    Continues channel ms op (.error e, r) := by
  refine ⟨phase, ?_, hshown⟩
  rw [milestone?_error, Option.toList_none, List.append_nil]
  exact hex

theorem continues_post {core : Nat} (hc : inboundBase + core = channel) (hs : r.state = .free)
    (code : Code) (flags : MessageFlags) {data : List Byte} (hlen : data.length ≤ payloadSize) :
    Continues channel ms (.post core code flags data)
      ((Operation.post core code flags data).onRecord listening r) := by
  obtain rfl := Phase.eq_settled hshown (Or.inl hs)
  rw [Operation.onRecord_post listening core code flags hlen]
  -- The request lies over whatever the last exchange has left behind.
  refine ⟨.posted code flags data, ?_, rfl, rfl, rfl, Memory.prefix_store_zero _ hlen⟩
  rw [milestone?_posted hc]
  exact .posted code flags data hex

theorem continues_respond (hs : r.state = .signalled ∨ r.state = .queued) (code : Code)
    {data : List Byte} (hlen : data.length ≤ payloadSize) :
    Continues channel ms (.respond channel code data)
      ((Operation.respond channel code data).onRecord listening r) := by
  rcases Phase.exists_posted hshown hs with ⟨asked, flags, request, rfl⟩
  rw [Operation.onRecord_respond listening _ code hlen]
  -- The flags of the request decide between free and acknowledged; either way it is settled.
  refine ⟨.settled, ?_, settled_eq r.flags⟩
  rw [milestone?_returned]
  exact .returned code data hex

theorem continues_reclaim (hs : r.state = .acknowledged) :
    Continues channel ms (.reclaim channel)
      ((Operation.reclaim channel).onRecord listening r) := by
  obtain rfl := Phase.eq_settled hshown (Or.inr hs)
  have hlowered : r.state.lowered = .free := by rw [hs, ChannelState.lowered]
  exact ⟨.settled, (List.append_nil ms).symm ▸ hex, Or.inl hlowered⟩

end Continue

/-- An operation on an inbound channel that the rule allows continues its exchange. -/
theorem exchange_step {s : Soc} {op : Operation} (hallowed : Allowed s op) (l : Layout)
    {channel : Fin channelCount} (hin : inboundBase ≤ channel.val) (hc : op.channel = channel)
    (listening : Nat → Bool) {ms : List Milestone} {phase : Phase} (hex : Exchange ms phase)
    (hshown : phase.Shown (s.records l channel)) :
    Continues channel ms op (op.onRecord listening (s.records l channel)) := by
  cases hallowed with
  | send c code flags payload =>
      obtain rfl : c = channel.val := hc
      -- On an inbound channel requests and collections of the processor are refused.
      rw [Operation.onRecord, if_pos hin]
      exact continues_error hex hshown _ _
  | collect c buffer =>
      obtain rfl : c = channel.val := hc
      rw [Operation.onRecord, if_pos hin]
      exact continues_error hex hshown _ _
  | @queue c hout =>
      obtain rfl : c = channel.val := hc
      exact absurd hin (Nat.not_le.mpr hout)
  | @complete c code data hout =>
      obtain rfl : c = channel.val := hc
      exact absurd hin (Nat.not_le.mpr hout)
  | @post core code flags data hcore hs hlen =>
      have hcore' : inboundBase + core = channel.val := hc
      rw [hcore'] at hs
      exact continues_post hex hshown hcore' ((Soc.state_eq_ok_iff l _ _).mp hs) code flags hlen
  | @respond c code data _ hlt hs hlen =>
      obtain rfl : c = channel.val := hc
      have hs' := hs.imp (Soc.state_eq_ok_iff l _ _).mp (Soc.state_eq_ok_iff l _ _).mp
      exact continues_respond hex hshown hs' code hlen
  | @reclaim c _ hlt hs =>
      obtain rfl : c = channel.val := hc
      exact continues_reclaim hex hshown ((Soc.state_eq_ok_iff l _ _).mp hs)

/-- In every run that begins with free channels, each inbound channel is in a
    phase of an exchange, and its record shows which. -/
theorem exists_exchange {mailbox? : Nat → Option Mailbox} {mb : Mailbox} {l : Layout}
    (hmb : mb.Placed l.place) {start s : Soc} (hs : start.PlacedAt l)
    (hrecords : start.OnlyRecords) {past : List Entry}
    (hrun : Run Allowed mailbox? mb start past s) (channel : Fin channelCount)
    (hin : inboundBase ≤ channel.val) (hfree : start.state channel = .ok .free) :
    ∃ phase, Exchange (milestones channel past) phase ∧ phase.Shown (s.records l channel) := by
  -- By induction on the run, in the way of the outbound side.
  refine Run.record_induction hmb hs (fun _ _ _ _ => hrecords) (P := fun past r =>
    ∃ phase, Exchange (milestones channel past) phase ∧ phase.Shown r) ?_ ?_ ?_ hrun
  · exact ⟨.settled, .nil, Or.inl ((Soc.state_eq_ok_iff l _ _).mp hfree)⟩
  · intro past t op hallowed hc hphase
    rcases hphase with ⟨phase, hex, hshown⟩
    rw [milestones_snoc]
    exact exchange_step hallowed l hin hc _ hex hshown
  · intro past op result r hne hphase
    rw [milestones_snoc, milestone?_of_ne hne, Option.toList_none, List.append_nil]
    exact hphase

/-- What the processor reads in the area of a channel: a code, flags, and a
    payload that begins with some data. -/
structure Carries (mb : Mailbox) (channel : Nat) (s : Soc) (code : Code) (flags : MessageFlags)
    (data : List Byte) (area : ChannelArea Soc) : Prop where
  reached : ∀ j, mb.area Soc.platform channel ⟨s, j⟩ = .ok area ⟨s, j⟩
  code : ∀ j, ∃ j', area.code ⟨s, j⟩ = .ok code ⟨s, j'⟩
  flags : ∀ j, ∃ j', area.flags ⟨s, j⟩ = .ok flags ⟨s, j'⟩
  payload : ∀ (buffer : List Byte) j, ∃ filled j',
    area.readPayload buffer ⟨s, j⟩ = .ok (min buffer.length payloadSize, filled) ⟨s, j'⟩ ∧
      Delivered data (min buffer.length payloadSize) filled

/-- What an answer to a request with these flags leaves on the channel. -/
structure Returned (line : Word) (channel : Nat) (code : Code) (flags : MessageFlags)
    (data : List Byte) (s t : Soc) : Prop where
  message : ∀ j, ∃ before, Firmware.message channel ⟨s, j⟩ = .ok before ⟨s, j⟩ ∧
    Firmware.message channel ⟨t, j⟩ =
      .ok ⟨code, flags, data ++ before.data.drop data.length⟩ ⟨t, j⟩
  state : t.state channel = .ok (if flags.contains .doAck then .acknowledged else .free)
  rings : t.rings = s.rings ++ if flags.contains .ringDoorbell then [line] else []

/-- The chip after an answer has the answer in place of the request. -/
theorem returned_responded {l : Layout} {s : Soc} (hs : s.PlacedAt l)
    (channel : Fin channelCount) (code : Code) {data : List Byte}
    (hlen : data.length ≤ payloadSize) (line : Word) :
    Returned line channel code (s.records l channel).flags data s
      (s.responded channel (l.place channel) code data (s.records l channel).flags line) := by
  have hchanged := Soc.changedOn_responded s channel (l.place channel) code
    (s.records l channel).flags line hlen
  -- The answer has moved no area, so the firmware still finds the message.
  have hplaced := (Soc.Kept.of_changedOn hchanged).placedAt hs
  have hrecord : (s.responded channel (l.place channel) code data (s.records l channel).flags
      line).records l channel = ⟨(s.records l channel).flags.settled, code,
        (s.records l channel).flags, (s.records l channel).data.store 0 data⟩ :=
    Soc.recordAt_responded s channel (l.inside channel) code _ hlen line
  -- The message and the state are read off the record, and the doorbell off the chip.
  refine ⟨fun j => ⟨_, Firmware.message_records hs channel j, ?_⟩, ?_, Soc.rings_responded ..⟩
  · rw [Firmware.message_records hplaced channel j, hrecord, Record.message,
      Memory.bytes_store_zero _ hlen]
    rfl
  · rw [Soc.state_eq_ok_iff l _ channel, hrecord, MessageFlags.settled]

section Area

variable {mb : Mailbox} {l : Layout} (hmb : mb.Placed l.place)

include hmb

/-- The processor reads the record of a channel in its area. -/
theorem area_shows (s : Soc) (channel : Fin channelCount) {data : List Byte}
    (hdata : data <+: (s.records l channel).data.bytes) :
    ∃ area, Carries mb channel s (s.records l channel).code (s.records l channel).flags data
      area := by
  rcases hmb.window channel with ⟨region, hreg, hplace⟩
  refine ⟨⟨Soc.platform.bus region⟩, fun j => Mailbox.area_run hreg _,
    fun j => ⟨_, ChannelArea.code_run hplace _⟩, fun j => ⟨_, ChannelArea.flags_run hplace _⟩,
    fun buffer j => ⟨_, _, ChannelArea.readPayload_run hplace buffer _, ?_⟩⟩
  -- The processor reads through its window the bytes that the record has.
  have htake := Soc.take_data_records l s channel buffer.length
  simp only
  rw [← htake]
  refine delivered_take_append hdata ?_
  rw [(s.records l channel).data.length_bytes]
  exact Nat.min_le_right _ _

/-- An answer is written over the request, and announced as the flags of the
    request ask. -/
theorem respond_after {s : Soc} (hs : s.PlacedAt l) (mailbox? : Nat → Option Mailbox)
    (channel : Fin channelCount) (code : Code) {data : List Byte}
    (hlen : data.length ≤ payloadSize) :
    (runStep s ((Operation.respond channel code data).run mailbox? mb)).result = .ok .done ∧
      Returned mb.config.doorbellLine channel code (s.records l channel).flags data s
        (runStep s ((Operation.respond channel code data).run mailbox? mb)).after := by
  rcases hmb.window channel with ⟨region, hreg, hplace⟩
  have hrespond := Mailbox.respond_run hmb.semaphore hreg channel.isLt hplace code hlen ⟨s, []⟩
  have hstep : runStep s ((Operation.respond channel code data).run mailbox? mb) = _ :=
    runStep_ok (bind_pure_ok hrespond)
  rw [hstep]
  exact ⟨rfl, returned_responded hs channel code hlen mb.config.doorbellLine⟩

end Area

/-- The inbound protocol, for every order in which the two sides can act, with
    anything happening on outbound channels meanwhile. On each channel posts
    and answers take turns. While a request is open the processor reads it in
    its area. An answer takes the place of the request, keeps its flags and
    what lies behind the bytes returned, and is announced as the flags ask. -/
theorem requests_answered {config : Configuration} (hdiscovery : config.discoveryBlock = 0)
    (hsemaphore : config.semaphoreBlock = 1) {mb : Mailbox} {w w' : World Soc}
    (hconnect : Mailbox.connect Soc.platform config w = .ok mb w')
    (hboot : w.hardware.addresses = Soc.bootAddresses) {start s : Soc}
    (haddresses : start.addresses = Soc.bootAddresses) (hrecords : start.OnlyRecords)
    (hfree : ∀ channel, inboundBase ≤ channel → channel < channelCount →
      start.state channel = .ok .free)
    {mailbox? : Nat → Option Mailbox} {past : List Entry}
    (hrun : Run Allowed mailbox? mb start past s) :
    (∀ channel, inboundBase ≤ channel → channel < channelCount →
      (∀ i m, (milestones channel past)[i]? = some m → m.turn = i % 2) ∧
      (∀ code flags data,
        (milestones channel past).getLast? = some (.posted code flags data) →
          s.state channel = .ok .signalled ∧
            ∃ area, Carries mb channel s code flags data area) ∧
      (∀ code data, Allowed s (.respond channel code data) →
        ∃ asked flags request,
          (milestones channel past).getLast? = some (.posted asked flags request) ∧
          (runStep s ((Operation.respond channel code data).run mailbox? mb)).result =
            .ok .done ∧
          Returned config.doorbellLine channel code flags data s
            (runStep s ((Operation.respond channel code data).run mailbox? mb)).after) ∧
      (Allowed s (.reclaim channel) →
        (runStep s ((Operation.reclaim channel).run mailbox? mb)).result = .ok .done ∧
          (runStep s ((Operation.reclaim channel).run mailbox? mb)).after.state channel =
            .ok .free)) ∧
    (∀ core code flags data, Allowed s (.post core code flags data) →
      ∃ taken, (runStep s ((Operation.post core code flags data).run mailbox? mb)).result =
        .ok (.flag taken)) ∧
    ∀ op, Allowed s op → ∀ channel : Fin channelCount, channel.val ≠ op.channel →
      (runStep s (op.run mailbox? mb)).after.records Layout.boot channel =
        s.records Layout.boot channel := by
  have hmb := Mailbox.placed_boot hdiscovery hsemaphore hconnect hboot
  have hline := (Mailbox.placed_of_connect hdiscovery hsemaphore hconnect).2
  have hs := Soc.placedAt_boot haddresses
  have hplaced := (hrun.kept hmb hs (fun _ _ _ _ => hrecords)).placedAt hs
  -- The next step comes to on the chip what it comes to on the record of its channel.
  have hyields : ∀ {op : Operation} {c : Fin channelCount} {reply : Reply} {r : Record},
      Allowed s op → op.channel = c →
        op.onRecord start.isListening (s.records Layout.boot c) = (.ok reply, r) →
          op.Yields mailbox? mb s reply r.state := fun hallowed hc hrecord =>
    hrun.yields hmb hs (fun _ _ _ _ => hrecords) hallowed hc hrecord
  refine ⟨fun channel hin hlt => ?_, fun core code flags data hallowed => ?_,
    fun op hallowed channel hne => ?_⟩
  · rcases exists_exchange hmb hs hrecords hrun ⟨channel, hlt⟩ hin
      (hfree channel hin hlt) with ⟨phase, hex, hshown⟩
    refine ⟨hex.turn.1, fun code flags data hlast => ?_, fun code data hallowed => ?_,
      fun hallowed => ?_⟩
    · -- While the request is the last milestone it is open, and the record shows it.
      obtain rfl := hex.eq_posted hlast
      rcases hshown with ⟨hstate, hcode, hflags, hdata⟩
      rw [← hcode, ← hflags]
      exact ⟨(Soc.state_eq_ok_iff Layout.boot s ⟨channel, hlt⟩).mpr hstate,
        area_shows hmb s ⟨channel, hlt⟩ hdata⟩
    · cases hallowed with
      | respond _ _ _ hstate hlen =>
          have hstate' := hstate.imp
            (Soc.state_eq_ok_iff Layout.boot s ⟨channel, hlt⟩).mp
            (Soc.state_eq_ok_iff Layout.boot s ⟨channel, hlt⟩).mp
          rcases Phase.exists_posted hshown hstate' with ⟨asked, flags, request, rfl⟩
          have hafter := respond_after hmb hplaced mailbox? ⟨channel, hlt⟩ code hlen
          -- The flags in the record are those posted, and the line is the configured one.
          rw [hshown.2.2.1, hline] at hafter
          exact ⟨asked, flags, request, hex.getLast?_posted, hafter⟩
    · cases hallowed with
      | reclaim hin' hlt' hstate =>
          have hlowered : (s.records Layout.boot ⟨channel, hlt⟩).state.lowered = .free := by
            rw [(Soc.state_eq_ok_iff Layout.boot s ⟨channel, hlt⟩).mp hstate, ChannelState.lowered]
          have hreclaim := hyields (c := ⟨channel, hlt⟩) (.reclaim hin' hlt' hstate) rfl rfl
          rw [hlowered] at hreclaim
          exact hreclaim
  · cases hallowed with
    | post _ _ hcore hstate hlen =>
        have hpost := hyields (c := ⟨inboundBase + core, Firmware.inboundIndex_lt hcore⟩)
          (.post code flags hcore hstate hlen) rfl (Operation.onRecord_post _ core code flags hlen _)
        exact ⟨_, hpost.1⟩
  · have hother := Operation.effect_of_ne start.isListening op (s.records Layout.boot) hne
    rw [(hrun.step_effect hmb hs (fun _ _ _ _ => hrecords) hallowed).1] at hother
    exact hother

/-- A whole exchange with the first core, on a chip whose firmware has just
    started: the request asks for an acknowledgement and for a doorbell, it is
    answered with one byte, and the channel is freed. -/
theorem requests_answered_booted :
    ∃ mb w' taken s t u,
      Mailbox.connect Soc.platform .standard ⟨Soc.booted, []⟩ = .ok mb w' ∧
      Run Allowed (fun _ => none) mb Soc.booted
        [⟨.post 0 5#32 .known [1#8, 2#8], .ok (.flag taken)⟩] s ∧
      (∃ area, Carries mb 8 s 5#32 .known [1#8, 2#8] area) ∧
      Run Allowed (fun _ => none) mb Soc.booted
        [⟨.post 0 5#32 .known [1#8, 2#8], .ok (.flag taken)⟩,
          ⟨.respond 8 6#32 [3#8], .ok .done⟩] t ∧
      Returned Configuration.standard.doorbellLine 8 6#32 .known [3#8] s t ∧
      Run Allowed (fun _ => none) mb Soc.booted
        [⟨.post 0 5#32 .known [1#8, 2#8], .ok (.flag taken)⟩,
          ⟨.respond 8 6#32 [3#8], .ok .done⟩, ⟨.reclaim 8, .ok .done⟩] u ∧
      u.state 8 = .ok .free := by
  rcases Mailbox.exists_connect_booted with ⟨mb, w', hconnect⟩
  have hfree : ∀ channel, channel < channelCount → Soc.booted.state channel = .ok .free := by
    decide
  -- After each step the protocol says what the next one comes to.
  have hprotocol : ∀ {past s}, Run Allowed (fun _ => none) mb Soc.booted past s → _ :=
    fun hrun => requests_answered rfl rfl hconnect rfl rfl Soc.onlyRecords_booted
      (fun channel _ hlt => hfree channel hlt) hrun
  have hpost : Allowed Soc.booted (.post 0 5#32 .known [1#8, 2#8]) :=
    .post 5#32 .known (by decide) (hfree 8 (by decide)) (by decide)
  rcases (hprotocol .nil).2.1 0 5#32 .known [1#8, 2#8] hpost with ⟨taken, htaken⟩
  have hrun₁ : Run Allowed (fun _ => none) mb Soc.booted _ _ := Run.nil.snoc_ok hpost htaken
  have hopen := ((hprotocol hrun₁).1 8 (by decide) (by decide)).2.1 5#32 .known [1#8, 2#8] rfl
  have hrespond : Allowed _ (.respond 8 6#32 [3#8]) :=
    .respond 6#32 (by decide) (by decide) (Or.inl hopen.1) (by decide)
  rcases ((hprotocol hrun₁).1 8 (by decide) (by decide)).2.2.1 6#32 [3#8] hrespond with
    ⟨asked, flags, request, hlast, hok, hreturned⟩
  -- The flags that the answer keeps are those posted.
  obtain rfl : flags = .known := (Milestone.posted.inj (Option.some.inj hlast)).2.1.symm
  have hrun₂ := hrun₁.snoc_ok hrespond hok
  have hreclaim : Allowed _ (.reclaim 8) := .reclaim (by decide) (by decide) hreturned.state
  have hfreed := ((hprotocol hrun₂).1 8 (by decide) (by decide)).2.2.2 hreclaim
  exact ⟨mb, w', taken, _, _, _, hconnect, hrun₁, hopen.2, hrun₂, hreturned,
    hrun₂.snoc_ok hreclaim hfreed.1, hfreed.2⟩

end Inbound

end BpmpMailbox
