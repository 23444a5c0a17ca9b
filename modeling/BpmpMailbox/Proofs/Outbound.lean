import BpmpMailbox.Proofs.History

/-!
# The outbound protocol

On an outbound channel the processor asks and the firmware answers. The
processor needs no rule: it may send and collect at any time, on any channel,
and is refused when it is not its turn. The firmware asks nobody, so the rule
is about the firmware. It takes up a request that it was signalled, and it
answers one that it was signalled or has taken up.

Under that rule every channel goes through exchanges of a request, its answer
and the collection of the answer. `Exchange` lists what a channel has been
through together with the phase it is in, and `Phase.Shown` says what the
record of the channel looks like in each phase. That the two go together in
every run is the invariant: which message lies in the buffer follows from who
has written it last, and the state of the channel says who that was.

The payload of a message has no length of its own, so what a reader can rely
on are its first bytes. Those are the bytes of the last writer, whatever a
longer message has left behind them.

Such a protocol could also be kept by two sides that never do anything. So it
is part of the promise that the side whose turn it is can act: its operation
comes to its end and hands the turn on, whatever was done before.

## Main definitions

* `Outbound.Allowed`: The rule.
* `Outbound.Milestone`, `Outbound.milestones`: What has come to pass on a channel.
* `Outbound.Phase`, `Outbound.Exchange`: The phase of a channel, and how it was reached.
* `Outbound.Phase.Shown`: What the record of a channel looks like in a phase.
* `Outbound.turnOf`: Which milestone is next in a state of the channel.
* `Outbound.Serves`: What the operations on a channel come to when it is their turn.
* `Outbound.Moves`: The state changes of the protocol.

## Theorems

* `Outbound.exchange_step`: An operation on a channel continues its exchange.
* `Outbound.exists_exchange`: In every run, each channel is in a phase and shows it.
* `Outbound.serves`: In every run, whoever's turn it is can act.
* `Outbound.moves_of_allowed`: A step of the rule is a state change of the protocol, or none.
* `Outbound.exchanges_in_turn`: What the protocol promises.
-/

namespace BpmpMailbox

open Script (Reply runStep)

namespace Outbound

/-- What may be done in a state of the chip: the processor sends and collects
    as it likes, and the firmware keeps to the state of the channel. -/
inductive Allowed (s : Soc) : Operation → Prop where
  | send (channel : Nat) (code : Code) (flags : MessageFlags) (payload : List Byte) :
    Allowed s (.send channel code flags payload)
  | collect (channel : Nat) (buffer : List Byte) : Allowed s (.collect channel buffer)
  | queue {channel : Nat} (hout : channel < inboundBase)
    (hs : s.state channel = .ok .signalled) : Allowed s (.queue channel)
  | complete {channel : Nat} (code : Code) {data : List Byte} (hout : channel < inboundBase)
    (hs : s.state channel = .ok .signalled ∨ s.state channel = .ok .queued)
    (hlen : data.length ≤ payloadSize) : Allowed s (.complete channel code data)

/-- What comes to pass on an outbound channel. -/
inductive Milestone where
  /-- A request was sent. -/
  | sent (code : Code) (flags : MessageFlags) (payload : List Byte)
  /-- It was answered. -/
  | completed (code : Code) (data : List Byte)
  /-- The answer was collected: its code and so many bytes of it, into a buffer. -/
  | taken (code : Code) (count : Nat) (buffer filled : List Byte)

/-- The place of a milestone in an exchange. -/
def Milestone.turn : Milestone → Nat
  | .sent .. => 0
  | .completed .. => 1
  | .taken .. => 2

/-- What an operation that came to its end has brought to pass on a channel. -/
def milestone? (channel : Nat) : Entry → Option Milestone
  | ⟨.send c code flags payload, .ok _⟩ =>
    if c = channel then some (.sent code flags payload) else none
  | ⟨.complete c code data, .ok _⟩ => if c = channel then some (.completed code data) else none
  | ⟨.collect c buffer, .ok (.response code count filled)⟩ =>
    if c = channel then some (.taken code count buffer filled) else none
  | _ => none

/-- What has come to pass on a channel. -/
def milestones (channel : Nat) (past : List Entry) : List Milestone :=
  past.filterMap (milestone? channel)

/-- The phases of an exchange, with what was written last. -/
inductive Phase where
  | idle
  | requested (code : Code) (flags : MessageFlags) (payload : List Byte)
  | answered (code : Code) (data : List Byte)

/-- The number of milestones that the exchange has behind it. -/
def Phase.turn : Phase → Nat
  | .idle => 0
  | .requested .. => 1
  | .answered .. => 2

/-- What the record of a channel looks like in a phase. -/
def Phase.Shown (r : Record) : Phase → Prop
  | .idle => r.state = .free
  | .requested code flags payload =>
    (r.state = .signalled ∨ r.state = .queued) ∧ r.code = code ∧ r.flags = flags ∧
      payload <+: r.data.bytes
  | .answered code data => r.state = .acknowledged ∧ r.code = code ∧ data <+: r.data.bytes

/-- What has come to pass on a channel, and the phase that it has led to. -/
inductive Exchange : List Milestone → Phase → Prop where
  | nil : Exchange [] .idle
  | sent {ms : List Milestone} (code : Code) (flags : MessageFlags) (payload : List Byte) :
    Exchange ms .idle → Exchange (ms ++ [.sent code flags payload]) (.requested code flags payload)
  | completed {ms : List Milestone} {asked : Code} {flags : MessageFlags} {payload : List Byte}
    (code : Code) (data : List Byte) :
    Exchange ms (.requested asked flags payload) →
      Exchange (ms ++ [.completed code data]) (.answered code data)
  | taken {ms : List Milestone} {code : Code} {data buffer filled : List Byte} {count : Nat} :
    Exchange ms (.answered code data) → count = min buffer.length payloadSize →
      Delivered data count filled → Exchange (ms ++ [.taken code count buffer filled]) .idle

/-- The number of milestones that an exchange has behind it when its channel is
    in this state: with it goes the turn to send, to answer or to collect. -/
def turnOf : ChannelState → Nat
  | .free => 0
  | .signalled | .queued => 1
  | .acknowledged => 2

/-- What the operations on a channel come to when the state of the channel says
    that it is their turn, after a last milestone. -/
structure Serves (mailbox? : Nat → Option Mailbox) (mb : Mailbox) (channel : Nat) (s : Soc)
    (last? : Option Milestone) : Prop where
  /-- A request that fits a message is sent. -/
  send : s.state channel = .ok .free → ∀ code flags payload, payload.length ≤ payloadSize →
    (Operation.send channel code flags payload).Yields mailbox? mb s .done .signalled
  /-- A request that was signalled is taken up. -/
  queue : s.state channel = .ok .signalled →
    (Operation.queue channel).Yields mailbox? mb s .done .queued
  /-- A request is answered, whether it was taken up or not. -/
  complete : s.state channel = .ok .signalled ∨ s.state channel = .ok .queued →
    ∀ code data, data.length ≤ payloadSize →
      (Operation.complete channel code data).Yields mailbox? mb s .done .acknowledged
  /-- The answer is the last milestone, and it is collected into any buffer. -/
  collect : s.state channel = .ok .acknowledged → ∀ buffer, ∃ code data filled,
    last? = some (.completed code data) ∧
      Delivered data (min buffer.length payloadSize) filled ∧
      (Operation.collect channel buffer).Yields mailbox? mb s
        (.response code (min buffer.length payloadSize) filled) .free

/-- The state changes of the protocol. -/
inductive Moves : ChannelState → ChannelState → Prop where
  | signal : Moves .free .signalled
  | queue : Moves .signalled .queued
  | complete : Moves .signalled .acknowledged
  | completeQueued : Moves .queued .acknowledged
  | release : Moves .acknowledged .free

section Milestones

theorem milestones_snoc (channel : Nat) (past : List Entry) (e : Entry) :
    milestones channel (past ++ [e]) = milestones channel past ++ (milestone? channel e).toList :=
  filterMap_snoc _ past e

/-- An operation on another channel brings nothing to pass on this one. -/
theorem milestone?_of_ne {channel : Nat} {op : Operation} (hne : op.channel ≠ channel)
    (result : Except Stop Reply) : milestone? channel ⟨op, result⟩ = none := by
  -- A milestone is only made of an operation on the channel itself.
  unfold milestone?
  split <;> grind [Operation.channel]

theorem milestone?_error (channel : Nat) (op : Operation) (e : Stop) :
    milestone? channel ⟨op, .error e⟩ = none := by
  cases op <;> rfl

theorem milestone?_sent (channel : Nat) (code : Code) (flags : MessageFlags)
    (payload : List Byte) (reply : Reply) :
    milestone? channel ⟨.send channel code flags payload, .ok reply⟩ =
      some (.sent code flags payload) := if_pos rfl

theorem milestone?_completed (channel : Nat) (code : Code) (data : List Byte) (reply : Reply) :
    milestone? channel ⟨.complete channel code data, .ok reply⟩ = some (.completed code data) :=
  if_pos rfl

theorem milestone?_taken (channel : Nat) (code : Code) (count : Nat) (buffer filled : List Byte) :
    milestone? channel ⟨.collect channel buffer, .ok (.response code count filled)⟩ =
      some (.taken code count buffer filled) := if_pos rfl

end Milestones

section Step

variable {phase : Phase} {r : Record}

/-- The state of the channel says how many milestones its exchange has behind it. -/
theorem Phase.turn_eq (h : phase.Shown r) : turnOf r.state = phase.turn := by
  cases phase with
  | idle =>
      have hfree : r.state = .free := h
      rw [hfree, turnOf, Phase.turn]
  | requested code flags payload =>
      -- Taking the request up makes no difference.
      rcases h.1 with hsig | hque
      · rw [hsig, turnOf, Phase.turn]
      · rw [hque, turnOf, Phase.turn]
  | answered code data => rw [h.1, turnOf, Phase.turn]

/-- A free channel is between two exchanges. -/
theorem Phase.eq_idle (h : phase.Shown r) (hs : r.state = .free) : phase = .idle := by
  cases phase with
  | idle => rfl
  | requested code flags payload =>
      rcases h.1 with hsig | hque
      · exact absurd (hs.symm.trans hsig) (by decide)
      · exact absurd (hs.symm.trans hque) (by decide)
  | answered code data => exact absurd (hs.symm.trans h.1) (by decide)

/-- A channel of which it is the firmware's turn carries a request. -/
theorem Phase.exists_requested (h : phase.Shown r) (hs : r.state = .signalled ∨ r.state = .queued) :
    ∃ code flags payload, phase = .requested code flags payload := by
  cases phase with
  | idle =>
      have hfree : r.state = .free := h
      -- A free channel is neither signalled nor queued.
      rw [hfree] at hs
      exact absurd hs (by decide)
  | requested code flags payload => exact ⟨code, flags, payload, rfl⟩
  | answered code data =>
      rw [h.1] at hs
      exact absurd hs (by decide)

/-- An acknowledged channel carries an answer. -/
theorem Phase.exists_answered (h : phase.Shown r) (hs : r.state = .acknowledged) :
    ∃ code data, phase = .answered code data := by
  cases phase with
  | idle => exact absurd (hs.symm.trans h) (by decide)
  | requested code flags payload =>
      rcases h.1 with hsig | hque
      · exact absurd (hs.symm.trans hsig) (by decide)
      · exact absurd (hs.symm.trans hque) (by decide)
  | answered code data => exact ⟨code, data, rfl⟩

end Step

/-- The exchange goes on in this way after an operation with this outcome. -/
def Continues (channel : Nat) (ms : List Milestone) (op : Operation)
    (outcome : Except Stop Reply × Record) : Prop :=
  ∃ phase, Exchange (ms ++ (milestone? channel ⟨op, outcome.1⟩).toList) phase ∧
    phase.Shown outcome.2

section Continue

variable {channel : Fin channelCount} {listening : Nat → Bool} {ms : List Milestone}
  {phase : Phase} {r : Record} (hex : Exchange ms phase) (hshown : phase.Shown r)

include hex hshown

theorem continues_error (op : Operation) (e : Stop) :
    Continues channel ms op (.error e, r) := by
  refine ⟨phase, ?_, hshown⟩
  rw [milestone?_error, Option.toList_none, List.append_nil]
  exact hex

theorem continues_send (code : Code) (flags : MessageFlags) (payload : List Byte) :
    Continues channel ms (.send channel code flags payload)
      ((Operation.send channel code flags payload).onRecord listening r) := by
  rcases Operation.send_cases listening channel code flags payload r with
    ⟨e, hrefused⟩ | ⟨-, hfree, hlen, hsent⟩
  · rw [hrefused]
    exact continues_error hex hshown _ _
  · -- Only a free channel lets a request through, and there is no other exchange then.
    rw [hsent]
    obtain rfl := Phase.eq_idle hshown hfree
    refine ⟨.requested code flags payload, ?_, Or.inl rfl, rfl, rfl,
      Memory.prefix_store_zero _ hlen⟩
    rw [milestone?_sent]
    exact .sent code flags payload hex

theorem continues_collect (buffer : List Byte) :
    Continues channel ms (.collect channel buffer)
      ((Operation.collect channel buffer).onRecord listening r) := by
  rcases Operation.collect_cases listening channel buffer r with
    ⟨e, hrefused⟩ | ⟨-, hacked, htaken⟩
  · rw [hrefused]
    exact continues_error hex hshown _ _
  · -- Only an acknowledged channel gives an answer away, and it is the last one written.
    rw [htaken]
    rcases Phase.exists_answered hshown hacked with ⟨code, data, rfl⟩
    rcases hshown with ⟨-, rfl, hdata⟩
    refine ⟨.idle, ?_, rfl⟩
    rw [milestone?_taken]
    refine .taken hex rfl (delivered_take_append hdata ?_)
    rw [r.data.length_bytes]
    exact Nat.min_le_right _ _

theorem continues_queue (hs : r.state = .signalled) :
    Continues channel ms (.queue channel) ((Operation.queue channel).onRecord listening r) := by
  rcases Phase.exists_requested hshown (Or.inl hs) with ⟨code, flags, payload, rfl⟩
  -- Taking a request up changes the state and leaves the message alone.
  have hraised : r.state.raised = .queued := by rw [hs, ChannelState.raised]
  exact ⟨.requested code flags payload, (List.append_nil ms).symm ▸ hex, Or.inr hraised, hshown.2⟩

theorem continues_complete (hs : r.state = .signalled ∨ r.state = .queued) (code : Code)
    {data : List Byte} (hlen : data.length ≤ payloadSize) :
    Continues channel ms (.complete channel code data)
      ((Operation.complete channel code data).onRecord listening r) := by
  rcases Phase.exists_requested hshown hs with ⟨asked, flags, payload, rfl⟩
  rw [Operation.onRecord_complete listening _ code hlen]
  -- The answer lies over the first bytes of the request.
  refine ⟨.answered code data, ?_, rfl, rfl, Memory.prefix_store_zero _ hlen⟩
  rw [milestone?_completed]
  exact .completed code data hex

end Continue

/-- An operation on a channel that the rule allows continues its exchange. -/
theorem exchange_step {s : Soc} {op : Operation} (hallowed : Allowed s op) (l : Layout)
    {channel : Fin channelCount} (hc : op.channel = channel) (listening : Nat → Bool)
    {ms : List Milestone} {phase : Phase} (hex : Exchange ms phase)
    (hshown : phase.Shown (s.records l channel)) :
    Continues channel ms op (op.onRecord listening (s.records l channel)) := by
  cases hallowed with
  | send c code flags payload =>
      obtain rfl : c = channel.val := hc
      exact continues_send hex hshown code flags payload
  | collect c buffer =>
      obtain rfl : c = channel.val := hc
      exact continues_collect hex hshown buffer
  | @queue c hout hs =>
      obtain rfl : c = channel.val := hc
      exact continues_queue hex hshown ((Soc.state_eq_ok_iff l _ _).mp hs)
  | @complete c code data hout hs hlen =>
      obtain rfl : c = channel.val := hc
      have hs' := hs.imp (Soc.state_eq_ok_iff l _ _).mp (Soc.state_eq_ok_iff l _ _).mp
      exact continues_complete hex hshown hs' code hlen

section Exchange

/-- Milestones take turns, and the phase tells how many its exchange has behind it. -/
theorem Exchange.turn {ms : List Milestone} {phase : Phase} (h : Exchange ms phase) :
    (∀ i m, ms[i]? = some m → m.turn = i % 3) ∧ ms.length % 3 = phase.turn := by
  -- The number of milestones gives the turn of the next one, and its turn the new phase.
  induction h with
  | nil => exact ⟨(fun i m hm => nomatch hm), rfl⟩
  | sent code flags payload _ ih =>
      exact turns_snoc ih.1 ih.2 (by simp only [Milestone.turn, Phase.turn])
  | completed code data _ ih =>
      exact turns_snoc ih.1 ih.2 (by simp only [Milestone.turn, Phase.turn])
  | taken _ _ _ ih =>
      exact turns_snoc ih.1 ih.2 (by simp only [Milestone.turn, Phase.turn])

/-- A channel in the middle of an exchange has sent the request last. -/
theorem Exchange.eq_requested {ms : List Milestone} {phase : Phase} (h : Exchange ms phase)
    {code : Code} {flags : MessageFlags} {payload : List Byte}
    (hlast : ms.getLast? = some (.sent code flags payload)) :
    phase = .requested code flags payload := by
  cases h with
  | nil => cases hlast
  | sent c f p _ =>
      rw [List.getLast?_concat, Option.some.injEq, Milestone.sent.injEq] at hlast
      -- The phase was entered by the last milestone, so both name the same request.
      rcases hlast with ⟨rfl, rfl, rfl⟩
      rfl
  | completed c d _ =>
      rw [List.getLast?_concat] at hlast
      cases hlast
  | taken _ _ _ =>
      rw [List.getLast?_concat] at hlast
      cases hlast

theorem Exchange.getLast?_answered {ms : List Milestone} {code : Code} {data : List Byte}
    (h : Exchange ms (.answered code data)) : ms.getLast? = some (.completed code data) := by
  cases h with
  | completed c d _ => exact List.getLast?_concat

/-- Each answer collected is the one that was given just before. -/
def Answers (ms : List Milestone) : Prop :=
  ∀ (i : Nat) (code : Code) (count : Nat) (buffer filled : List Byte),
    ms[i + 1]? = some (.taken code count buffer filled) →
      ∃ data, ms[i]? = some (.completed code data) ∧ count = min buffer.length payloadSize ∧
        Delivered data count filled

theorem answers_snoc {ms : List Milestone} (h : Answers ms) {m : Milestone}
    (hm : ∀ code count buffer filled, m = .taken code count buffer filled →
      ∃ data, ms.getLast? = some (.completed code data) ∧ count = min buffer.length payloadSize ∧
        Delivered data count filled) : Answers (ms ++ [m]) := by
  -- A collection either was there before or is the new milestone.
  intro i code count buffer filled hget
  by_cases hi : i + 1 < ms.length
  · rw [List.getElem?_append_left hi] at hget
    rw [List.getElem?_append_left (Nat.lt_of_succ_lt hi)]
    exact h i code count buffer filled hget
  · rw [List.getElem?_append_right (Nat.not_lt.mp hi), List.getElem?_singleton] at hget
    split at hget
    · -- The milestone is the last one, and the one before it is the last of the others.
      have hlast : ms.length - 1 = i := by omega
      have hlt : i < ms.length := by omega
      rcases hm code count buffer filled (Option.some.inj hget) with ⟨data, hdata, hrest⟩
      rw [List.getLast?_eq_getElem?, hlast] at hdata
      rw [List.getElem?_append_left hlt]
      exact ⟨data, hdata, hrest⟩
    · cases hget

theorem Exchange.answers {ms : List Milestone} {phase : Phase} (h : Exchange ms phase) :
    Answers ms := by
  induction h with
  | nil => exact fun i code count buffer filled hget => nomatch hget
  | sent code flags payload _ ih => exact answers_snoc ih (fun _ _ _ _ hm => nomatch hm)
  | completed code data _ ih => exact answers_snoc ih (fun _ _ _ _ hm => nomatch hm)
  | @taken ms code data buffer filled count hex hcount hdelivered ih =>
      -- The exchange was in the phase of an answer, so an answer was the last milestone.
      refine answers_snoc ih fun code' count' buffer' filled' hm => ?_
      rw [Milestone.taken.injEq] at hm
      rcases hm with ⟨rfl, rfl, rfl, rfl⟩
      exact ⟨data, hex.getLast?_answered, hcount, hdelivered⟩

end Exchange

section Moves

theorem ok_ne_fault (reply : Reply) (f : Fault) :
    (.ok reply : Except Stop Reply) ≠ .error (.fault f) := by
  intro h
  cases h

theorem refused_ne_fault (e : Refusal) (f : Fault) :
    (.error (.refused e) : Except Stop Reply) ≠ .error (.fault f) := by
  intro h
  cases h

/-- What the rule allows ends well or in a refusal, and either leaves the record
    of its channel alone or is a state change of the protocol. -/
theorem moves_of_allowed {s : Soc} {op : Operation} (hallowed : Allowed s op) (l : Layout)
    (channel : Fin channelCount) (hc : op.channel = channel) (listening : Nat → Bool) :
    (∀ f, (op.onRecord listening (s.records l channel)).1 ≠ .error (.fault f)) ∧
      ((op.onRecord listening (s.records l channel)).2 = s.records l channel ∨
        Moves (s.records l channel).state
          (op.onRecord listening (s.records l channel)).2.state) := by
  cases hallowed with
  | send c code flags payload =>
      rcases Operation.send_cases listening c code flags payload (s.records l channel) with
        ⟨e, hrefused⟩ | ⟨-, hfree, -, hsent⟩
      · rw [hrefused]
        exact ⟨refused_ne_fault e, Or.inl rfl⟩
      · rw [hsent, hfree]
        exact ⟨ok_ne_fault _, Or.inr .signal⟩
  | collect c buffer =>
      rcases Operation.collect_cases listening c buffer (s.records l channel) with
        ⟨e, hrefused⟩ | ⟨-, hacked, htaken⟩
      · rw [hrefused]
        exact ⟨refused_ne_fault e, Or.inl rfl⟩
      · rw [htaken, hacked]
        exact ⟨ok_ne_fault _, Or.inr .release⟩
  | @queue c hout hs =>
      obtain rfl : c = channel.val := hc
      have hstate := (Soc.state_eq_ok_iff l _ _).mp hs
      have hraised : (s.records l channel).state.raised = .queued := by
        rw [hstate, ChannelState.raised]
      refine ⟨ok_ne_fault _, Or.inr ?_⟩
      simp only [Operation.onRecord, hraised]
      rw [hstate]
      exact .queue
  | @complete c code data hout hs hlen =>
      obtain rfl : c = channel.val := hc
      rw [Operation.onRecord_complete listening _ code hlen]
      refine ⟨ok_ne_fault _, Or.inr ?_⟩
      -- An answer may come before or after the request was taken up.
      rcases hs with hs | hs
      · rw [(Soc.state_eq_ok_iff l _ _).mp hs]
        exact .complete
      · rw [(Soc.state_eq_ok_iff l _ _).mp hs]
        exact .completeQueued

theorem channel_lt_or_refused {s : Soc} {op : Operation} (hallowed : Allowed s op) :
    op.channel < channelCount ∨ op.outside = .error (.refused (.invalidChannel op.channel)) := by
  cases hallowed with
  -- The firmware only acts on channels that exist; the processor is refused on the others.
  | send | collect => exact Or.inr rfl
  | queue hout _ | complete _ hout _ _ => exact Or.inl (Nat.lt_trans hout (by decide))

/-- The same for all records at once. -/
theorem effect_of_allowed {s : Soc} {op : Operation} (hallowed : Allowed s op) (l : Layout)
    (listening : Nat → Bool) :
    (∀ f, (op.effect listening (s.records l)).1 ≠ .error (.fault f)) ∧
      ∀ channel : Fin channelCount,
        (op.effect listening (s.records l)).2 channel = s.records l channel ∨
          op.channel = channel ∧ Moves (s.records l channel).state
            ((op.effect listening (s.records l)).2 channel).state := by
  by_cases hlt : op.channel < channelCount
  · have hmoves := moves_of_allowed hallowed l ⟨op.channel, hlt⟩ rfl listening
    refine ⟨?_, fun channel => ?_⟩
    · rw [Operation.effect_inside _ _ ⟨op.channel, hlt⟩ rfl]
      exact hmoves.1
    · by_cases hc : op.channel = channel
      · obtain rfl : (⟨op.channel, hlt⟩ : Fin channelCount) = channel := Fin.ext hc
        rw [Operation.effect_inside _ _ ⟨op.channel, hlt⟩ rfl]
        simp only [Function.update_self]
        exact hmoves.2.imp id fun h => ⟨trivial, h⟩
      · exact Or.inl (Operation.effect_of_ne _ _ _ (Ne.symm hc))
  · rw [Operation.effect_outside _ _ (Nat.not_lt.mp hlt)]
    have hrefused := (channel_lt_or_refused hallowed).resolve_left hlt
    refine ⟨?_, fun channel => Or.inl rfl⟩
    rw [hrefused]
    exact refused_ne_fault _

end Moves

/-- Nothing that the rule allows raises a doorbell. -/
theorem onlyRecords_of_allowed (start : Soc) : ∀ (s : Soc) (op : Operation), Allowed s op →
    op.raisesDoorbell = true → start.OnlyRecords := by
  intro s op hallowed hraises
  cases hallowed <;> cases hraises

/-- In every run that begins with free channels, each outbound channel is in a
    phase of an exchange, and its record shows which. -/
theorem exists_exchange {mailbox? : Nat → Option Mailbox} {mb : Mailbox} {l : Layout}
    (hmb : mb.Placed l.place) {start s : Soc} (hs : start.PlacedAt l) {past : List Entry}
    (hrun : Run Allowed mailbox? mb start past s) (channel : Fin channelCount)
    (hfree : start.state channel = .ok .free) :
    ∃ phase, Exchange (milestones channel past) phase ∧ phase.Shown (s.records l channel) := by
  -- By induction on the run: the invariant holds at the start, an allowed operation on the
  -- channel continues the exchange, and one on another channel adds no milestone.
  refine Run.record_induction hmb hs (onlyRecords_of_allowed start) (P := fun past r =>
    ∃ phase, Exchange (milestones channel past) phase ∧ phase.Shown r) ?_ ?_ ?_ hrun
  · exact ⟨.idle, .nil, (Soc.state_eq_ok_iff l _ _).mp hfree⟩
  · intro past t op hallowed hc hphase
    rcases hphase with ⟨phase, hex, hshown⟩
    rw [milestones_snoc]
    exact exchange_step hallowed l hc _ hex hshown
  · intro past op result r hne hphase
    rw [milestones_snoc, milestone?_of_ne hne, Option.toList_none, List.append_nil]
    exact hphase

/-- In every run that begins with free channels, an operation on an outbound
    channel comes to its end when it is its turn, and hands the turn on. -/
theorem serves {mailbox? : Nat → Option Mailbox} {mb : Mailbox} {l : Layout}
    (hmb : mb.Placed l.place) {start s : Soc} (hs : start.PlacedAt l) {past : List Entry}
    (hrun : Run Allowed mailbox? mb start past s) (channel : Fin channelCount)
    (hout : channel.val < inboundBase) (hfree : start.state channel = .ok .free) :
    Serves mailbox? mb channel s (milestones channel past).getLast? := by
  -- An operation that is allowed comes to the same on the chip as on the record.
  have hyields : ∀ {op : Operation} {reply : Reply} {r : Record}, Allowed s op →
      op.channel = channel → op.onRecord start.isListening (s.records l channel) = (.ok reply, r) →
        op.Yields mailbox? mb s reply r.state := fun hallowed hc hrecord =>
    hrun.yields hmb hs (onlyRecords_of_allowed start) hallowed hc hrecord
  have hrecord : ∀ {state : ChannelState}, s.state channel = .ok state →
      (s.records l channel).state = state := (Soc.state_eq_ok_iff l s channel).mp
  refine ⟨fun hstate code flags payload hlen => ?_, fun hstate => ?_,
    fun hstate code data hlen => ?_, fun hstate buffer => ?_⟩
  · exact hyields (.send _ code flags payload) rfl
      (Operation.onRecord_send _ hout code flags hlen (hrecord hstate))
  · have hraised : (s.records l channel).state.raised = .queued := by
      rw [hrecord hstate, ChannelState.raised]
    rw [← hraised]
    exact hyields (.queue hout hstate) rfl rfl
  · exact hyields (.complete code hout hstate hlen) rfl
      (Operation.onRecord_complete _ _ code hlen _)
  · rcases exists_exchange hmb hs hrun channel hfree with ⟨phase, hex, hshown⟩
    -- The state shows that there is an answer, and an answer is the last thing that came to pass.
    rcases Phase.exists_answered hshown (hrecord hstate) with ⟨code, data, rfl⟩
    rcases hshown with ⟨-, rfl, hdata⟩
    refine ⟨_, data, _, hex.getLast?_answered, ?_, hyields (.collect _ buffer) rfl
      (Operation.onRecord_collect _ hout buffer (hrecord hstate))⟩
    refine delivered_take_append hdata ?_
    rw [(s.records l channel).data.length_bytes]
    exact Nat.min_le_right _ _

/-- The outbound protocol, for every order in which the two sides can act.
    On each channel requests, answers and collections take turns, and the state
    of the channel tells whose turn it is. From a request to its answer the
    firmware sees that request, and the answer collected is the one given.
    Whoever's turn it is can act, and hands the turn on. No step ends in a
    fault, and each is a state change of the protocol on one channel or leaves
    all channels alone. -/
theorem exchanges_in_turn {config : Configuration} (hdiscovery : config.discoveryBlock = 0)
    (hsemaphore : config.semaphoreBlock = 1) {mb : Mailbox} {w w' : World Soc}
    (hconnect : Mailbox.connect Soc.platform config w = .ok mb w')
    (hboot : w.hardware.addresses = Soc.bootAddresses) {start s : Soc}
    (haddresses : start.addresses = Soc.bootAddresses)
    (hfree : ∀ channel, channel < inboundBase → start.state channel = .ok .free)
    {mailbox? : Nat → Option Mailbox} {past : List Entry}
    (hrun : Run Allowed mailbox? mb start past s) :
    (∀ channel, channel < inboundBase →
      (∀ i m, (milestones channel past)[i]? = some m → m.turn = i % 3) ∧
      (∀ code flags payload,
        (milestones channel past).getLast? = some (.sent code flags payload) →
          ∀ j, ∃ m, Firmware.message channel ⟨s, j⟩ = .ok m ⟨s, j⟩ ∧ m.code = code ∧
            m.flags = flags ∧ payload <+: m.data) ∧
      (∀ i code count buffer filled,
        (milestones channel past)[i + 1]? = some (.taken code count buffer filled) →
          ∃ data, (milestones channel past)[i]? = some (.completed code data) ∧
            count = min buffer.length payloadSize ∧
            filled.take (min count data.length) = data.take (min count data.length)) ∧
      (∃ state, s.state channel = .ok state ∧
        turnOf state = (milestones channel past).length % 3) ∧
      Serves mailbox? mb channel s (milestones channel past).getLast?) ∧
    ∀ op, Allowed s op →
      (∀ f, (runStep s (op.run mailbox? mb)).result ≠ .error (.fault f)) ∧
      ∀ channel : Fin channelCount,
        (runStep s (op.run mailbox? mb)).after.records Layout.boot channel =
            s.records Layout.boot channel ∨
          op.channel = channel ∧ Moves (s.records Layout.boot channel).state
            ((runStep s (op.run mailbox? mb)).after.records Layout.boot channel).state := by
  have hmb := Mailbox.placed_boot hdiscovery hsemaphore hconnect hboot
  have hs := Soc.placedAt_boot haddresses
  -- Nothing is assumed about handlers, as no doorbell of the firmware rings in these runs.
  have hrecords := onlyRecords_of_allowed start
  refine ⟨fun channel hout => ?_, fun op hallowed => ?_⟩
  · have hlt : channel < channelCount := Nat.lt_trans hout (by decide)
    have hphase := exists_exchange hmb hs hrun ⟨channel, hlt⟩ (hfree channel hout)
    rcases hphase with ⟨phase, hex, hshown⟩
    have hstate := (Soc.state_eq_ok_iff Layout.boot s ⟨channel, hlt⟩).mpr rfl
    refine ⟨hex.turn.1, fun code flags payload hlast j => ?_, hex.answers,
      ⟨_, hstate, (Phase.turn_eq hshown).trans hex.turn.2.symm⟩,
      serves hmb hs hrun ⟨channel, hlt⟩ hout (hfree channel hout)⟩
    -- The request is the last milestone, so it is still the one that the record shows.
    obtain rfl := hex.eq_requested hlast
    have hplaced := (hrun.kept hmb hs hrecords).placedAt hs
    exact ⟨_, Firmware.message_records hplaced ⟨channel, hlt⟩ j, hshown.2⟩
  · have heffect := (hrun.step_effect hmb hs hrecords hallowed).1
    have hmoves := effect_of_allowed hallowed Layout.boot start.isListening
    rw [heffect] at hmoves
    exact hmoves

/-- A whole exchange on the first channel of a chip whose firmware has just
    started: the request is sent, taken up and answered, and the answer is
    collected into a buffer of three bytes. -/
theorem exchanges_in_turn_booted :
    ∃ mb w' s t filled,
      Mailbox.connect Soc.platform .standard ⟨Soc.booted, []⟩ = .ok mb w' ∧
      Run Allowed (fun _ => none) mb Soc.booted
        [⟨.send 0 1#32 .doAck [7#8], .ok .done⟩, ⟨.queue 0, .ok .done⟩] s ∧
      (∃ m, Firmware.message 0 ⟨s, []⟩ = .ok m ⟨s, []⟩ ∧ m.code = 1#32 ∧ m.flags = .doAck ∧
        [7#8] <+: m.data) ∧
      Run Allowed (fun _ => none) mb Soc.booted
        [⟨.send 0 1#32 .doAck [7#8], .ok .done⟩, ⟨.queue 0, .ok .done⟩,
          ⟨.complete 0 9#32 [5#8, 6#8], .ok .done⟩,
          ⟨.collect 0 [0#8, 0#8, 0#8], .ok (.response 9#32 3 filled)⟩] t ∧
      filled.take 2 = [5#8, 6#8] ∧ t.state 0 = .ok .free := by
  rcases Mailbox.exists_connect_booted with ⟨mb, w', hconnect⟩
  have hfree : ∀ channel, channel < inboundBase → Soc.booted.state channel = .ok .free := by
    decide
  -- After each step the protocol says that the next one can be taken.
  have hprotocol : ∀ {past s}, Run Allowed (fun _ => none) mb Soc.booted past s → _ :=
    fun hrun => (exchanges_in_turn rfl rfl hconnect rfl rfl hfree hrun).1 0 (by decide)
  have hsend := (hprotocol .nil).2.2.2.2.send (hfree 0 (by decide)) 1#32 .doAck [7#8] (by decide)
  have hrun₁ : Run Allowed (fun _ => none) mb Soc.booted _ _ :=
    Run.nil.snoc_ok (.send 0 1#32 .doAck [7#8]) hsend.1
  have hqueue := (hprotocol hrun₁).2.2.2.2.queue hsend.2
  have hrun₂ := hrun₁.snoc_ok (.queue (by decide) hsend.2) hqueue.1
  have hcomplete := (hprotocol hrun₂).2.2.2.2.complete (Or.inr hqueue.2) 9#32 [5#8, 6#8]
    (by decide)
  have hrun₃ := hrun₂.snoc_ok
    (.complete 9#32 (by decide) (Or.inr hqueue.2) (by decide : [5#8, 6#8].length ≤ payloadSize))
    hcomplete.1
  rcases (hprotocol hrun₃).2.2.2.2.collect hcomplete.2 [0#8, 0#8, 0#8] with
    ⟨code, data, filled, hlast, hdelivered, hcollect⟩
  -- The answer collected is the one that was given.
  have hanswer : Milestone.completed 9#32 [5#8, 6#8] = .completed code data :=
    Option.some.inj hlast
  rcases Milestone.completed.inj hanswer with ⟨rfl, rfl⟩
  have hrun₄ := hrun₃.snoc_ok (.collect 0 [0#8, 0#8, 0#8]) hcollect.1
  exact ⟨mb, w', _, _, filled, hconnect, hrun₂, (hprotocol hrun₂).2.1 1#32 .doAck [7#8] rfl [],
    hrun₄, hdelivered, hcollect.2⟩

end Outbound

end BpmpMailbox
