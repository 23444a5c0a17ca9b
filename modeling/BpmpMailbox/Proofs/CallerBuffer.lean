import BpmpMailbox.Proofs.Effects.Mailbox

/-!
# The buffer of a collection

A collection fills a buffer that belongs to its caller. `Mailbox.collect` is
given the bytes of the buffer and hands back others, and a collection that
stops hands back nothing, which leaves open what its caller is left with. Here
the buffer lies beside the hardware. It is there before the collection and
after it, however that ends, and what has been written to it before a stop
stays written.

This is another way to look at the same operation: when a collection comes to
its end, the bytes that it hands back are those that its caller finds in the
buffer. And the buffer is not touched before the channel was found to be
acknowledged, so a refusal leaves it as it was.

## Main definitions

* `World.beside`: A world with a buffer beside its hardware.
* `Action.beside`: An action that leaves the buffer alone.
* `ChannelArea.readPayloadInto`, `Mailbox.collectInto`: A payload and a response, collected into
  the buffer.

## Theorems

* `Mailbox.collectInto_ok`: What a collection hands back is what its caller finds.
* `Mailbox.collectInto_notOutbound`, `Mailbox.collectInto_busy`: A refusal leaves the buffer alone.
-/

namespace BpmpMailbox

variable {σ : Type}

/-- A world with a buffer beside its hardware. -/
def World.beside (w : World σ) (buffer : List Byte) : World (σ × List Byte) :=
  ⟨(w.hardware, buffer), w.journal⟩

/-- An action that leaves the buffer beside its hardware alone. -/
def Action.beside {α : Type} (act : Action σ α) : Action (σ × List Byte) α := fun w =>
  match act ⟨w.hardware.1, w.journal⟩ with
  | .ok a v => .ok a (v.beside w.hardware.2)
  | .error e v => .error e (v.beside w.hardware.2)

section

variable {α : Type} {act : Action σ α} {w v : World σ}

theorem beside_ok {a : α} (h : act w = .ok a v) (buffer : List Byte) :
    act.beside (w.beside buffer) = .ok a (v.beside buffer) := by
  simp only [Action.beside, World.beside, h]

theorem beside_error {e : Stop} (h : act w = .error e v) (buffer : List Byte) :
    act.beside (w.beside buffer) = .error e (v.beside buffer) := by
  simp only [Action.beside, World.beside, h]

end

/-- Fill the buffer with payload bytes from its start, as many as there are in a
    message, and tell how many that were. -/
def ChannelArea.readPayloadInto (a : ChannelArea σ) : Action (σ × List Byte) Nat := do
  let (_, buffer) ← hardware
  let (count, filled) ← Action.beside (a.readPayload buffer)
  setHardware fun (s, _) => (s, filled)
  pure count

theorem ChannelArea.readPayloadInto_ok {a : ChannelArea σ} {w v : World σ}
    {buffer filled : List Byte} {count : Nat} (h : a.readPayload buffer w = .ok (count, filled) v) :
    a.readPayloadInto (w.beside buffer) = .ok count (v.beside filled) := by
  unfold readPayloadInto
  rw [bind_ok (hardware_run _)]
  simp only [World.beside]
  exact bind_ok (beside_ok h buffer)

namespace Mailbox

/-- Collect the response on an outbound channel into the buffer and free the
    channel. The result is the response's code and the number of bytes filled. -/
def collectInto (pf : Platform σ) (mb : Mailbox) (channel : Nat) :
    Action (σ × List Byte) (Code × Nat) := do
  let area ← Action.beside (mb.outboundArea pf channel)
  Action.beside (mb.requireState pf channel .acknowledged)
  let code ← Action.beside area.code
  let count ← area.readPayloadInto
  Action.beside ((mb.semaphore pf).release channel)
  pure (code, count)

section

variable (pf : Platform σ) (mb : Mailbox) {channel : Nat}

/-- The bytes that a collection hands back are those that its caller finds in
    the buffer. -/
theorem collectInto_ok {w w' : World σ} {buffer filled : List Byte} {code : Code} {count : Nat}
    (h : mb.collect pf channel buffer w = .ok (code, count, filled) w') :
    mb.collectInto pf channel (w.beside buffer) = .ok (code, count) (w'.beside filled) := by
  unfold collect at h
  -- Each part of the collection came to its end, so it does so beside the buffer.
  rcases exists_of_bind_ok h with ⟨area, w₁, harea, h⟩
  rcases exists_of_bind_ok h with ⟨_, w₂, hstate, h⟩
  rcases exists_of_bind_ok h with ⟨code', w₃, hcode, h⟩
  rcases exists_of_bind_ok h with ⟨⟨count', filled'⟩, w₄, hfilled, h⟩
  rcases exists_of_bind_ok h with ⟨_, w₅, hrelease, h⟩
  rw [pure_run, EStateM.Result.ok.injEq, Prod.mk.injEq, Prod.mk.injEq] at h
  rcases h with ⟨⟨rfl, rfl, rfl⟩, rfl⟩
  unfold collectInto
  rw [bind_ok (beside_ok harea _), bind_ok (beside_ok hstate _), bind_ok (beside_ok hcode _),
    bind_ok (ChannelArea.readPayloadInto_ok hfilled), bind_ok (beside_ok hrelease _), pure_run]

theorem collectInto_notOutbound (hin : inboundBase ≤ channel) (buffer : List Byte) (w : World σ) :
    mb.collectInto pf channel (w.beside buffer) =
      .error (.refused (.invalidChannel channel)) (w.beside buffer) := by
  unfold collectInto
  rw [bind_error (beside_error (outboundArea_refused pf mb hin w) buffer)]

end

variable {mb : Mailbox} {channel : Nat} {region : Region}

theorem collectInto_busy (hsem : mb.semaphoreRegion.kind = .semaphore)
    (hreg : mb.areas.outbound? channel = some region) (hout : channel < inboundBase)
    (buffer : List Byte) (w : World Soc)
    (hs : Word.state w.hardware.word channel ≠ .acknowledged) :
    mb.collectInto Soc.platform channel (w.beside buffer) =
      .error (.refused (.channelBusy channel (Word.state w.hardware.word channel)))
        ((w.moved w.hardware [mb.statusRead]).beside buffer) := by
  have hlt : channel < channelCount := Nat.lt_trans hout (by decide)
  unfold collectInto
  -- The buffer comes into play only after the state was looked at.
  rw [bind_ok (beside_ok (outboundArea_run hreg hout w) buffer),
    bind_error (beside_error (requireState_refused hsem hlt w hs) buffer)]

end Mailbox

end BpmpMailbox
