import BpmpMailbox.Refusal

/-!
# Interrupt handlers

What is installed for a core's doorbell: a handler bound to the channel it
serves. A handler is described by its reaction, and by the mailbox it acts on.
It does not keep that mailbox alive; when the mailbox is gone, the handler is
called as before and finds nothing to act on.

## Main definitions

* `Reaction`: What a handler does when its doorbell rings.
* `Handler`: A reaction and the mailbox it acts on.
* `Binding`: A handler and the channel it serves.
* `Outcome`: What became of one call of a handler.
-/

namespace BpmpMailbox

/-- What a handler does when its doorbell rings. -/
inductive Reaction where
  /-- Nothing besides taking note of the call. -/
  | record
  /-- Send one byte, the number of the channel served, on an outbound channel. -/
  | send (channel : Nat) (code : Code)
  /-- Answer a waiting request with its own payload, cut to `size` bytes, and
      with its code raised by `delta`. -/
  | echo (delta : Code) (size : Nat)
  /-- The same, and then raise the doorbell of the next core. -/
  | chain (delta : Code) (size : Nat)
  deriving DecidableEq, Repr

/-- A reaction and the mailbox it acts on, by the number given at connection. -/
structure Handler where
  reaction : Reaction
  mailbox : Option Nat
  deriving DecidableEq, Repr

/-- A handler bound to the channel it serves. -/
structure Binding where
  handler : Handler
  channel : Nat
  deriving DecidableEq, Repr

/-- The binding in a message; the handler is not shown. -/
def Binding.text (b : Binding) : String := s!"IrqBinding \x7b channel: {b.channel}, .. \x7d"

/-- What became of one call of a handler. -/
inductive Outcome where
  /-- The call was noted and nothing else. -/
  | recorded
  /-- The mailbox was gone. -/
  | gone
  /-- The message was sent. -/
  | sent
  /-- No request was waiting. -/
  | idle
  /-- The request was answered. -/
  | answered
  /-- The transport refused. -/
  | refused (error : Refusal)
  deriving DecidableEq, Repr

end BpmpMailbox
