import BpmpMailbox.Mailbox
import BpmpMailbox.Soc.Platform

/-!
# Interrupts on the chip

Raising a core's doorbell calls the handler installed for it, with the channel
it is bound to, before anything else goes on. A doorbell without a handler is
reported and otherwise ignored.

A handler may raise another doorbell from inside its call. The handlers
installed do not change meanwhile, so if more calls are nested than there are
cores, some core's handler has been entered twice in a row of calls that can
only go on for ever. That is the bound below, and reaching it is a fault.

## Main definitions

* `Handler.answer`: Answer a waiting request with its own payload.
* `Handler.react`: What a handler does with its mailbox.
* `Soc.fire`: Raise a core's doorbell.
-/

namespace BpmpMailbox

namespace Handler

/-- What became of an operation that answers with nothing. -/
def outcomeOf (done : Outcome) (act : Action Soc Unit) : Action Soc Outcome := do
  match ← attempt act with
  | .ok () => pure done
  | .error e => pure (.refused e)

/-- Answer a waiting request with its own payload, cut to `size` bytes, and
    with its code raised by `delta`. -/
def answer (mb : Mailbox) (delta : Code) (size channel : Nat) : Action Soc Outcome := do
  let waiting ← (mb.semaphore Soc.platform).isSignalled channel
  if waiting then
    match ← attempt (mb.area Soc.platform channel) with
    | .error e => pure (.refused e)
    | .ok area =>
      let (count, buffer) ← area.readPayload (List.replicate size 0#8)
      let code ← area.code
      outcomeOf .answered
        (mb.respond Soc.platform channel (code + delta) (buffer.take count))
  else pure .idle

/-- What a reaction does with the mailbox that it acts on. -/
def act (reaction : Reaction) (mb : Mailbox) (channel : Nat) : Action Soc Outcome :=
  match reaction with
  | .record => pure .recorded
  | .send target code =>
    outcomeOf .sent
      (mb.send Soc.platform target code .empty [BitVec.ofNat 8 channel])
  | .echo delta size | .chain delta size => answer mb delta size channel

/-- Call a handler with the channel it is bound to; `mailbox?` knows which
    mailboxes are still there. -/
def react (mailbox? : Nat → Option Mailbox) (h : Handler) (channel : Nat) : Action Soc Unit := do
  let outcome ← match h.reaction with
    | .record => pure .recorded
    | reaction =>
      match h.mailbox.bind mailbox? with
      | some mb => act reaction mb channel
      | none => pure .gone
  note (.handled h channel outcome)

/-- The core whose doorbell a handler raises after it has served a channel:
    the core after the one that the inbound channel belongs to. -/
def next? (h : Handler) (channel : Nat) : Option Nat :=
  match h.reaction with
  | .chain .. =>
    if inboundBase ≤ channel ∧ channel + 1 < channelCount then some (channel - inboundBase + 1)
    else none
  | _ => none

end Handler

namespace Soc

/-- Raise a core's doorbell while at most `depth` calls may be nested. -/
def fireNested (mailbox? : Nat → Option Mailbox) : Nat → Nat → Action Soc Bool
  | 0, _ => fault .endlessInterrupts
  | depth + 1, core => do
    let s ← hardware
    match s.binding? core with
    | none =>
      log (.spuriousDoorbell core)
      pure false
    | some binding =>
      binding.handler.react mailbox? binding.channel
      match binding.handler.next? binding.channel with
      | some core' =>
        let _ ← fireNested mailbox? depth core'
        pure true
      | none => pure true

/-- Raise a core's doorbell, and tell whether a handler took it. -/
def fire (mailbox? : Nat → Option Mailbox) (core : Nat) : Action Soc Bool :=
  fireNested mailbox? (coreCount + 1) core

end Soc

end BpmpMailbox
