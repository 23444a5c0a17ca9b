import BpmpMailbox.Proofs.Refusals

/-!
# The order in which a buffer changes hands

A channel's buffer belongs to one side at a time, and a write to the semaphore
gives it away. From that write on the other side may read the buffer and write
it, so everything that an operation does with the buffer has to be done before.
The chip at the end of an operation does not show in which order things were
done. The hardware calls do, and this module is about the calls alone.

A request and a collection begin by reading the semaphore, which is how they
know that the buffer is theirs. A response has no such read: it writes to the
buffer first and looks at the state of the channel only then. What the three
have in common is the end. After the write that gives the buffer away there
are only accesses to the semaphore, and at the very last there may be a ring.

The calls of each operation are brought into one form, with a front that ends
where the buffer is given away, and `HandsOver.of_front` reads the rules off
that form.

## Main definitions

* `Access.stop`: The end of an access.
* `HardwareCall.isAreaAccess`, `HardwareCall.isSemaphoreWrite`: The calls that have to be kept
  apart.
* `Mailbox.HandsOver`: The calls give a buffer away after its last use, and ring last.
* `Mailbox.KeepsToMessage`, `Mailbox.OnSemaphore`: What is called before that, and after it.

## Theorems

* `Mailbox.HandsOver.of_front`: The rules, from the form that the calls have.
* `Mailbox.handsOver_send`, `Mailbox.handsOver_collect`, `Mailbox.handsOver_respond`: The calls of
  each operation have the form.
* `Mailbox.buffers_handed_over`: Every operation that succeeds keeps the rules.
-/

namespace BpmpMailbox

open Script (runStep)

/-- The first address past the bytes that an access reaches. -/
def Access.stop : Access → Nat
  | .read addr | .write addr _ => addr + 4
  | .readBytes addr count | .writeBytes addr count => addr + count

namespace HardwareCall

/-- Whether the call is an access to a window of memory. -/
def isAreaAccess : HardwareCall → Bool
  | .access ⟨.dram .., _⟩ _ => true
  | _ => false

/-- Whether the call writes to a semaphore register. -/
def isSemaphoreWrite : HardwareCall → Bool
  | .access ⟨.semaphore, _⟩ (.write ..) | .access ⟨.semaphore, _⟩ (.writeBytes ..) => true
  | _ => false

theorem isAreaAccess_of_semaphore {region : Region} (h : region.kind = .semaphore)
    (access : Access) : (HardwareCall.access region access).isAreaAccess = false := by
  rcases region with ⟨kind, ticket⟩
  simp only at h
  rw [h]
  rfl

theorem isSemaphoreWrite_of_message {region : Region} {place : Nat} (h : region.MessageAt place)
    (access : Access) : (HardwareCall.access region access).isSemaphoreWrite = false := by
  rcases h with ⟨size, hkind, -⟩
  rcases region with ⟨kind, ticket⟩
  simp only at hkind
  rw [hkind]
  rfl

theorem isSemaphoreWrite_read (region : Region) (addr : Nat) :
    (HardwareCall.access region (.read addr)).isSemaphoreWrite = false := by
  rcases region with ⟨kind, ticket⟩
  cases kind <;> rfl

end HardwareCall

/-- Nothing comes after an entry that is not among all but the last. -/
theorem eq_nil_of_append_singleton {α : Type} {xs before after : List α} {x last : α}
    (h : xs ++ [last] = before ++ x :: after) (hx : x ∉ xs) : after = [] := by
  rcases List.eq_nil_or_concat after with hnil | ⟨front, final, hfinal⟩
  · exact hnil
  · -- With something after it, the entry would be among all but the last.
    rw [hfinal, List.concat_eq_append, ← List.cons_append, ← List.append_assoc] at h
    have hfront := List.append_inj_left' h rfl
    exact absurd (hfront ▸ List.mem_append_right before List.mem_cons_self) hx

/-- A byte copy of no more than a payload ends inside the message. -/
theorem stop_payload {count : Nat} (h : count ≤ payloadSize) :
    payloadOffset + count ≤ messageSize := by
  simp only [payloadSize, payloadOffset, messageSize] at h ⊢
  omega

namespace Mailbox

/-- The calls give the buffer of a channel away by a write to `port`. All
    accesses to areas come before it, and it is the first write to the
    semaphore; they stay within the channel's message; and a ring is the last
    call of all. -/
structure HandsOver (mb : Mailbox) (channel port : Nat) (calls : List HardwareCall) : Prop where
  areasFirst : ∃ before value after,
    calls = before ++ .access mb.semaphoreRegion (.write port value) :: after ∧
      (∀ call ∈ before, call.isSemaphoreWrite = false) ∧
      (∀ call ∈ after, call.isAreaAccess = false)
  inMessage : ∀ region access, HardwareCall.access region access ∈ calls →
    (HardwareCall.access region access).isAreaAccess = true →
      mb.areas.outbound? channel = some region ∧ access.stop ≤ messageSize
  ringLast : ∀ before line after, calls = before ++ .ring line :: after → after = []

/-- The call reads the semaphore word, or keeps to the message in a region. -/
def KeepsToMessage (mb : Mailbox) (region : Region) (call : HardwareCall) : Prop :=
  call = .access mb.semaphoreRegion (.read statusPort) ∨
    ∃ access : Access, call = .access region access ∧ access.stop ≤ messageSize

/-- The call is an access to the semaphore. -/
def OnSemaphore (mb : Mailbox) (call : HardwareCall) : Prop :=
  ∃ access, call = .access mb.semaphoreRegion access

/-- The ring, if there is one. -/
theorem exists_line_of_mem {line? : Option Word} {call : HardwareCall}
    (h : call ∈ (line?.map HardwareCall.ring).toList) : ∃ line, call = .ring line := by
  rw [Option.mem_toList, Option.map_eq_some_iff] at h
  rcases h with ⟨line, -, rfl⟩
  exact ⟨line, rfl⟩

section

variable {mb : Mailbox} {channel place : Nat} {region : Region}
  {front rest : List HardwareCall}

theorem isSemaphoreWrite_front (hplace : region.MessageAt place)
    (hfront : ∀ call ∈ front, mb.KeepsToMessage region call) :
    ∀ call ∈ front, call.isSemaphoreWrite = false := by
  intro call hcall
  rcases hfront call hcall with rfl | ⟨access, rfl, -⟩
  · exact HardwareCall.isSemaphoreWrite_read _ _
  · exact HardwareCall.isSemaphoreWrite_of_message hplace access

theorem isAreaAccess_rest (hsem : mb.semaphoreRegion.kind = .semaphore)
    (hrest : ∀ call ∈ rest, mb.OnSemaphore call) (line? : Option Word) :
    ∀ call ∈ rest ++ (line?.map HardwareCall.ring).toList, call.isAreaAccess = false := by
  intro call hcall
  rcases List.mem_append.mp hcall with hcall | hcall
  · rcases hrest call hcall with ⟨access, rfl⟩
    exact HardwareCall.isAreaAccess_of_semaphore hsem access
  · rcases exists_line_of_mem hcall with ⟨line, rfl⟩
    rfl

theorem ring_notMem (hfront : ∀ call ∈ front, mb.KeepsToMessage region call)
    (hrest : ∀ call ∈ rest, mb.OnSemaphore call) (port : Nat) (value line : Word) :
    HardwareCall.ring line ∉
      front ++ .access mb.semaphoreRegion (.write port value) :: rest := by
  intro hmem
  rcases List.mem_append.mp hmem with hmem | hmem
  · rcases hfront _ hmem with heq | ⟨access, heq, -⟩ <;> cases heq
  · rcases List.mem_cons.mp hmem with heq | hmem
    · cases heq
    · rcases hrest _ hmem with ⟨access, heq⟩
      cases heq

variable (hsem : mb.semaphoreRegion.kind = .semaphore)
  (hreg : mb.areas.outbound? channel = some region) (hplace : region.MessageAt place)

include hsem hreg hplace

/-- The form of the calls: a front of reads of the semaphore and accesses to
    the channel's message, the write that gives the buffer away, a rest on the
    semaphore alone, and a ring or none. -/
theorem HandsOver.of_front {port : Nat} {value : Word} {line? : Option Word}
    (hfront : ∀ call ∈ front, mb.KeepsToMessage region call)
    (hrest : ∀ call ∈ rest, mb.OnSemaphore call) :
    mb.HandsOver channel port
      (front ++ .access mb.semaphoreRegion (.write port value) ::
        (rest ++ (line?.map .ring).toList)) where
  areasFirst := ⟨front, value, _, rfl, isSemaphoreWrite_front hplace hfront,
    isAreaAccess_rest hsem hrest line?⟩
  inMessage := by
    intro region' access hcall harea
    -- What is on the semaphore is no access to an area, so only the front is left.
    have hsemaphore : ∀ access' : Access,
        HardwareCall.access region' access ≠ .access mb.semaphoreRegion access' := by
      intro access' heq
      rw [heq, HardwareCall.isAreaAccess_of_semaphore hsem] at harea
      cases harea
    rcases List.mem_append.mp hcall with hcall | hcall
    · rcases hfront _ hcall with heq | ⟨access', heq, hstop⟩
      · exact absurd heq (hsemaphore _)
      · injection heq with hregion haccess
        exact ⟨hregion ▸ hreg, haccess ▸ hstop⟩
    · rcases List.mem_cons.mp hcall with heq | hcall
      · exact absurd heq (hsemaphore _)
      · have hno := isAreaAccess_rest hsem hrest line? _ hcall
        rw [harea] at hno
        cases hno
  ringLast := by
    intro before line after h
    -- Neither the front nor the rest has a ring, so a ring is the one at the end.
    have hnone := ring_notMem hfront hrest port value line
    rw [← List.cons_append, ← List.append_assoc] at h
    cases line? with
    | none =>
        simp only [Option.map_none, Option.toList_none, List.append_nil] at h
        exact absurd (h ▸ List.mem_append_right before List.mem_cons_self) hnone
    | some last => exact eq_nil_of_append_singleton h hnone

/-- A request: the payload, the code and the flags are written while the
    channel is still free. -/
theorem handsOver_send (code : Code) (flags : MessageFlags) {payload : List Byte}
    (hlen : payload.length ≤ payloadSize) :
    mb.HandsOver channel clearPort
      (Event.calls (mb.sendEvents region channel code flags payload)) := by
  have hcalls : Event.calls (mb.sendEvents region channel code flags payload) =
      [.access mb.semaphoreRegion (.read statusPort),
        .access region (.writeBytes payloadOffset payload.length),
        .access region (.write codeOffset code),
        .access region (.write flagsOffset flags.bits)] ++
      .access mb.semaphoreRegion (.write clearPort (fieldMask channel)) ::
        ([] ++ ((some mb.config.doorbellLine).map .ring).toList) := rfl
  rw [hcalls]
  refine HandsOver.of_front hsem hreg hplace (fun call hcall => ?_) (List.forall_mem_nil _)
  simp only [List.mem_cons, List.not_mem_nil, or_false] at hcall
  rcases hcall with rfl | rfl | rfl | rfl
  · exact Or.inl rfl
  · exact Or.inr ⟨_, rfl, stop_payload hlen⟩
  · exact Or.inr ⟨_, rfl, (by decide : codeOffset + 4 ≤ messageSize)⟩
  · exact Or.inr ⟨_, rfl, (by decide : flagsOffset + 4 ≤ messageSize)⟩

/-- A collection: the code and the payload are read while the channel is still
    acknowledged. The word is read once more before the channel is freed. -/
theorem handsOver_collect {count : Nat} (hcount : count ≤ payloadSize) :
    mb.HandsOver channel clearPort (Event.calls (mb.collectEvents region channel count)) := by
  have hcalls : Event.calls (mb.collectEvents region channel count) =
      [.access mb.semaphoreRegion (.read statusPort),
        .access region (.read codeOffset),
        .access region (.readBytes payloadOffset count),
        .access mb.semaphoreRegion (.read statusPort)] ++
      .access mb.semaphoreRegion (.write clearPort (releaseBits channel)) ::
        ([] ++ ((none : Option Word).map .ring).toList) := rfl
  rw [hcalls]
  refine HandsOver.of_front hsem hreg hplace (fun call hcall => ?_) (List.forall_mem_nil _)
  simp only [List.mem_cons, List.not_mem_nil, or_false] at hcall
  rcases hcall with rfl | rfl | rfl | rfl
  · exact Or.inl rfl
  · exact Or.inr ⟨_, rfl, (by decide : codeOffset + 4 ≤ messageSize)⟩
  · exact Or.inr ⟨_, rfl, stop_payload hcount⟩
  · exact Or.inl rfl

/-- A response: the message is written and its flags are read before the
    acknowledgement. What frees the channel at once, if the flags do not ask to
    see the acknowledgement, is on the semaphore again. -/
theorem handsOver_respond (code : Code) {data : List Byte} (hlen : data.length ≤ payloadSize)
    (flags : MessageFlags) (state : ChannelState) :
    mb.HandsOver channel setPort
      (Event.calls (mb.respondEvents region channel code data flags state)) := by
  -- The warning about a response that nobody waits for is no call.
  have hunasked : Event.calls (unaskedEvents channel state) = [] := by
    unfold unaskedEvents
    split <;> rfl
  have hcalls : Event.calls (mb.respondEvents region channel code data flags state) =
      [.access region (.writeBytes payloadOffset data.length),
        .access region (.write codeOffset code),
        .access region (.read flagsOffset),
        .access mb.semaphoreRegion (.read statusPort)] ++
      .access mb.semaphoreRegion (.write setPort (ChannelState.acknowledged.bits channel)) ::
        ((if flags.contains .doAck then []
          else [.access mb.semaphoreRegion (.read statusPort),
            .access mb.semaphoreRegion (.write clearPort (releaseBits channel))]) ++
        ((if flags.contains .ringDoorbell then some mb.config.doorbellLine
          else none).map .ring).toList) := by
    simp only [respondEvents, Event.calls, List.filterMap_append]
    simp only [Event.calls] at hunasked
    rw [hunasked]
    unfold Semaphore.acknowledgeEvents
    split <;> split <;> rfl
  rw [hcalls]
  refine HandsOver.of_front hsem hreg hplace (fun call hcall => ?_) (fun call hcall => ?_)
  · simp only [List.mem_cons, List.not_mem_nil, or_false] at hcall
    rcases hcall with rfl | rfl | rfl | rfl
    · exact Or.inr ⟨_, rfl, stop_payload hlen⟩
    · exact Or.inr ⟨_, rfl, (by decide : codeOffset + 4 ≤ messageSize)⟩
    · exact Or.inr ⟨_, rfl, (by decide : flagsOffset + 4 ≤ messageSize)⟩
    · exact Or.inl rfl
  · split at hcall
    · cases hcall
    · simp only [List.mem_cons, List.not_mem_nil, or_false] at hcall
      rcases hcall with rfl | rfl <;> exact ⟨_, rfl⟩

end

/-- The calls of a step that moved the world are those among its events. -/
theorem calls_runStep {α : Type} {s t : Soc} {act : Action Soc α} {a : α} {events : List Event}
    (h : act ⟨s, []⟩ = .ok a (World.moved ⟨s, []⟩ t events)) :
    Event.calls (runStep s act).events = Event.calls events := by
  rw [runStep_ok h, World.moved, List.nil_append]

/-- Every operation on messages that succeeds gives the buffer away after its
    last use of it, keeps to the message of its channel, and rings last; and a
    request and a collection know that the buffer is theirs before they use
    it. This holds of every mailbox that was connected and in every state. -/
theorem buffers_handed_over {config : Configuration} (hdiscovery : config.discoveryBlock = 0)
    (hsemaphore : config.semaphoreBlock = 1) {mb : Mailbox} {w w' : World Soc}
    (hconnect : connect Soc.platform config w = .ok mb w') (s : Soc) (channel : Nat) :
    (∀ code flags payload done,
      (runStep s (mb.send Soc.platform channel code flags payload)).result = .ok done →
        let calls := Event.calls
          (runStep s (mb.send Soc.platform channel code flags payload)).events
        mb.HandsOver channel clearPort calls ∧
          calls.head? = some (.access mb.semaphoreRegion (.read statusPort))) ∧
    (∀ buffer response,
      (runStep s (mb.collect Soc.platform channel buffer)).result = .ok response →
        let calls := Event.calls (runStep s (mb.collect Soc.platform channel buffer)).events
        mb.HandsOver channel clearPort calls ∧
          calls.head? = some (.access mb.semaphoreRegion (.read statusPort))) ∧
    (∀ code data done,
      (runStep s (mb.respond Soc.platform channel code data)).result = .ok done →
        mb.HandsOver channel setPort
          (Event.calls (runStep s (mb.respond Soc.platform channel code data)).events)) := by
  have hplaced := (placed_of_connect hdiscovery hsemaphore hconnect).1
  have hsem := hplaced.semaphore
  -- An operation that succeeds had no reason to be refused, so its calls are known.
  refine ⟨fun code flags payload done hok => ?_, fun buffer response hok => ?_,
    fun code data done hok => ?_⟩
  · have hnone := (hplaced.send_refusedFor s channel code flags payload).eq_none hok
    rcases (sendRefusal?_eq_none_iff _ _ _).mp hnone with ⟨hout, hfree, hlen⟩
    rcases hplaced.window ⟨channel, Nat.lt_trans hout (by decide)⟩ with ⟨region, hreg, hplace⟩
    have hrun := send_run hsem hreg hout hplace code flags ⟨s, []⟩ hfree hlen
    simp only [calls_runStep hrun]
    exact ⟨handsOver_send hsem hreg hplace code flags hlen, rfl⟩
  · have hnone := (hplaced.collect_refusedFor s channel buffer).eq_none hok
    rcases (collectRefusal?_eq_none_iff _ _).mp hnone with ⟨hout, hacked⟩
    rcases hplaced.window ⟨channel, Nat.lt_trans hout (by decide)⟩ with ⟨region, hreg, hplace⟩
    have hrun := collect_run hsem hreg hout hplace buffer ⟨s, []⟩ hacked
    simp only [calls_runStep hrun]
    exact ⟨handsOver_collect hsem hreg hplace (Nat.min_le_right _ _), rfl⟩
  · have hnone := (hplaced.respond_refusedFor s channel code data).eq_none hok
    rcases (respondRefusal?_eq_none_iff _ _).mp hnone with ⟨hlt, hlen⟩
    rcases hplaced.window ⟨channel, hlt⟩ with ⟨region, hreg, hplace⟩
    have hrun := respond_run hsem hreg hlt hplace code hlen ⟨s, []⟩
    rw [calls_runStep hrun]
    exact handsOver_respond hsem hreg hplace code hlen _ _

/-- A request, a collection and a response, on a chip on which the first channel
    is free, the second is acknowledged and the first inbound one is signalled. -/
theorem buffers_handed_over_booted :
    ∃ mb w', connect Soc.platform .standard ⟨Soc.booted, []⟩ = .ok mb w' ∧
      ∃ s : Soc, s = { Soc.booted with word := 0xA8AAAE#32 } ∧
        (∃ done, (runStep s (mb.send Soc.platform 0 7#32 .empty [1#8])).result = .ok done ∧
          mb.HandsOver 0 clearPort
            (Event.calls (runStep s (mb.send Soc.platform 0 7#32 .empty [1#8])).events)) ∧
        (∃ response, (runStep s (mb.collect Soc.platform 1 [2#8, 3#8])).result = .ok response ∧
          mb.HandsOver 1 clearPort
            (Event.calls (runStep s (mb.collect Soc.platform 1 [2#8, 3#8])).events)) ∧
        ∃ done, (runStep s (mb.respond Soc.platform 8 9#32 [4#8])).result = .ok done ∧
          mb.HandsOver 8 setPort
            (Event.calls (runStep s (mb.respond Soc.platform 8 9#32 [4#8])).events) := by
  rcases exists_connect_booted with ⟨mb, w', hconnect⟩
  have hplaced := (placed_of_connect rfl rfl hconnect).1
  refine ⟨mb, w', hconnect, _, rfl, ?_⟩
  have hword : ({ Soc.booted with word := 0xA8AAAE#32 } : Soc).word = 0xA8AAAE#32 := rfl
  generalize ({ Soc.booted with word := 0xA8AAAE#32 } : Soc) = s at hword ⊢
  -- There is no reason to refuse any of the three.
  have hsend := hplaced.send_refusedFor s 0 7#32 .empty [1#8]
  have hcollect := hplaced.collect_refusedFor s 1 [2#8, 3#8]
  have hrespond := hplaced.respond_refusedFor s 8 9#32 [4#8]
  rw [hword] at hsend hcollect
  rcases RefusedFor.exists_ok hsend with ⟨done, hsent⟩
  rcases RefusedFor.exists_ok hcollect with ⟨response, hcollected⟩
  rcases RefusedFor.exists_ok hrespond with ⟨done', hresponded⟩
  have hover := buffers_handed_over rfl rfl hconnect s
  exact ⟨⟨done, hsent, ((hover 0).1 7#32 .empty [1#8] done hsent).1⟩,
    ⟨response, hcollected, ((hover 1).2.1 [2#8, 3#8] response hcollected).1⟩,
    ⟨done', hresponded, (hover 8).2.2 9#32 [4#8] done' hresponded⟩⟩

end Mailbox

end BpmpMailbox
