import BpmpMailbox.Hardware.Platform

/-!
# The notifier

Notifications in both directions. All outbound channels share one doorbell
line, so the channel that a ring is for shows only in the log. Inbound, every
core has a doorbell of its own, and its handler is bound to the core's inbound
channel.

Installing handlers goes core by core and stops at the first refusal. What was
installed before it stays installed.

## Main definitions

* `Notifier`: The line that is rung, over some doorbells.
* `Notifier.ring`: Wake the firmware.
* `Notifier.installAll`: Install one handler for every core.
-/

namespace BpmpMailbox

/-- The line on which the firmware listens, unless configured otherwise. -/
def outboundDoorbell : Word := 4#32

/-- Doorbells together with the line that wakes the firmware. -/
structure Notifier (σ : Type) where
  doorbells : Doorbells σ
  line : Word

namespace Notifier

variable {σ : Type}

/-- Wake the firmware because of a channel. -/
def ring (n : Notifier σ) (channel : Nat) : Action σ Unit := do
  log (.ringing n.line channel)
  n.doorbells.ring n.line

/-- Install a handler for each core of a list. -/
def installCores (n : Notifier σ) (handler : Handler) : List Nat → Action σ Unit
  | [] => pure ()
  | core :: cores => do
    let channel ← Action.ofExcept (inboundIndex core)
    match ← n.doorbells.register core ⟨handler, channel⟩ with
    | .error error =>
      log (.registrationFailed core error)
      refuse (.handlerNotInstalled core error)
    | .ok () => installCores n handler cores

/-- Install a handler for every core, bound to the core's inbound channel. -/
def installAll (n : Notifier σ) (handler : Handler) : Action σ Unit := do
  n.installCores handler (List.range coreCount)
  log .handlersInstalled

end Notifier

end BpmpMailbox
