import BpmpMailbox.Proofs.Effects.Mailbox
import BpmpMailbox.Proofs.Widths

/-!
# Indices past the last channel

Twelve channels fill three quarters of the word, and an index can be any size.
Past the twelfth channel come the spare bits of the word, after them distances
that no shift can go, and in the end indices that cannot even be doubled. None
of these may reach a channel that is there. There is no one place that sees to
it: every function compares the index for itself, and the masks and bits answer
zero in case one forgets.

Zero would not be enough. It is also what a signalled channel shows, so a
question that compared a field of no bits with the bits of that state would
find them equal. The questions therefore give no field for such an index, and a
comparison with no field is false for every state.

All this is true before any access, so it holds over every register block and on
every platform. That no register was touched and nothing rung is said by naming
the same world on both sides, with at most a log record added.

## Main definitions

* `Semaphore.Ignores`: What the operations of a semaphore come to on such an index.
* `Mailbox.Refuses`: What those of a mailbox come to.

## Theorems

* `Semaphore.ignores_of_le`, `Mailbox.refuses_of_le`: Both, for every index past the last channel.
* `Mailbox.beyond_channels`: No index past the last channel reaches a channel.
-/

namespace BpmpMailbox

/-- The semaphore has nothing for the index: questions are answered without a
    look at the registers, and changes are dropped with a warning. -/
structure Semaphore.Ignores {σ : Type} (s : Semaphore σ) (channel : Nat) : Prop where
  state? : ∀ w, s.state? channel w = .ok none w
  isFree : ∀ w, s.isFree channel w = .ok false w
  isSignalled : ∀ w, s.isSignalled channel w = .ok false w
  isAcknowledged : ∀ w, s.isAcknowledged channel w = .ok false w
  signal : ∀ w, s.signal channel w =
    .ok () (w.moved w.hardware [.log (.changeIgnored .signal channel)])
  acknowledge : ∀ flags w, s.acknowledge channel flags w =
    .ok () (w.moved w.hardware [.log (.changeIgnored .acknowledge channel)])
  release : ∀ w, s.release channel w =
    .ok () (w.moved w.hardware [.log (.changeIgnored .release channel)])

theorem Semaphore.ignores_of_le {σ : Type} (s : Semaphore σ) {channel : Nat}
    (h : channelCount ≤ channel) : s.Ignores channel where
  state? := s.state?_outside h
  isFree w := s.inState_outside h w .free
  isSignalled w := s.inState_outside h w .signalled
  isAcknowledged w := s.inState_outside h w .acknowledged
  signal := onChannel_outside .signal h _
  acknowledge _ := onChannel_outside .acknowledge h _
  release := onChannel_outside .release h _

namespace Mailbox

variable {σ : Type} {pf : Platform σ} {mb : Mailbox} {channel : Nat}

/-- The mailbox refuses the index for not being a channel, before it has made
    any call. A response leaves a record of that. -/
structure Refuses (pf : Platform σ) (mb : Mailbox) (channel : Nat) : Prop where
  area : ∀ w, mb.area pf channel w = .error (.refused (.invalidChannel channel)) w
  send : ∀ code flags payload w, mb.send pf channel code flags payload w =
    .error (.refused (.invalidChannel channel)) w
  collect : ∀ buffer w, mb.collect pf channel buffer w =
    .error (.refused (.invalidChannel channel)) w
  respond : ∀ code data w, mb.respond pf channel code data w =
    .error (.refused (.invalidChannel channel))
      (w.moved w.hardware [.log (.responseToInvalid channel)])

/-- A mailbox with one window for each channel has none for the index. -/
theorem area_outside (hlen : mb.areas.windows.length = channelCount) (h : channelCount ≤ channel)
    (w : World σ) : mb.area pf channel w = .error (.refused (.invalidChannel channel)) w := by
  have hnone : mb.areas.outbound? channel = none := List.getElem?_eq_none (hlen.symm ▸ h)
  simp only [area, hnone, refuse_run]

theorem refuses_of_le (hlen : mb.areas.windows.length = channelCount)
    (h : channelCount ≤ channel) : mb.Refuses pf channel := by
  have hin : inboundBase ≤ channel := Nat.le_trans (by decide) h
  exact {
    area := area_outside hlen h
    send := send_notOutbound pf mb hin
    collect := collect_notOutbound pf mb hin
    respond := respond_outside pf mb h }

/-- No index past the last channel reaches a channel. Its mask and its bits are
    zero, and computing them does not leave any width. Every semaphore ignores
    it, every mailbox that was connected refuses it, and the one record that an
    ignored change leaves is a warning with the index in it. -/
theorem beyond_channels {config : Configuration} {w w' : World σ}
    (hconnect : connect pf config w = .ok mb w') (h : channelCount ≤ channel) :
    (fieldMask channel = 0#32 ∧ ∀ state : ChannelState, state.bits channel = 0#32) ∧
    (∀ code, Checked.inField code channel = .ok 0#32) ∧
    (∀ (τ : Type) (s : Semaphore τ), s.Ignores channel) ∧ mb.Refuses pf channel ∧
    ∀ change, (LogRecord.changeIgnored change channel).level = .warn ∧
      ∃ front back,
        (LogRecord.changeIgnored change channel).message = front ++ toString channel ++ back := by
  have hcode : ∀ code, Checked.inField code channel = .ok 0#32 := fun code =>
    (Checked.inField_eq code channel).trans (by rw [if_neg (Nat.not_lt.mpr h)])
  refine ⟨⟨fieldMask_of_le h, fun state => state.bits_of_le h⟩, hcode,
    fun τ s => s.ignores_of_le h, refuses_of_le (length_windows_of_connect hconnect) h,
    fun change => ⟨rfl, "bpmp-t210: " ++ change.name ++ " on invalid channel ", " ignored", rfl⟩⟩

/-- An index that cannot be doubled in its width is not signalled, and nothing
    can be sent on it. -/
theorem beyond_channels_booted :
    ∃ mb w', connect Soc.platform .standard ⟨Soc.booted, []⟩ = .ok mb w' ∧
      addressLimit ≤ 2 * 0x8000000000000000 ∧
      (mb.semaphore Soc.platform).isSignalled 0x8000000000000000 ⟨Soc.booted, []⟩ =
        .ok false ⟨Soc.booted, []⟩ ∧
      mb.send Soc.platform 0x8000000000000000 0#32 ⟨0#32⟩ [] ⟨Soc.booted, []⟩ =
        .error (.refused (.invalidChannel 0x8000000000000000)) ⟨Soc.booted, []⟩ := by
  rcases exists_connect_booted with ⟨mb, w', hconnect⟩
  have hlarge : channelCount ≤ 0x8000000000000000 := by decide
  rcases beyond_channels hconnect hlarge with ⟨-, -, hignores, hrefuses, -⟩
  exact ⟨mb, w', hconnect, by decide, (hignores Soc _).isSignalled _, hrefuses.send _ _ _ _⟩

end Mailbox

end BpmpMailbox
