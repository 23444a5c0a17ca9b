import BpmpMailbox.Channel.State

/-!
# Refusals

A refusal is an answer: the operation found that it must not be carried out,
or could not be, and says why. There are two kinds. `DoorbellError` comes from
whatever delivers interrupts and tells why a handler was not installed.
`Refusal` comes from the transport itself, and carries a `DoorbellError`
inside when an installation is what failed.

Each error has two texts. `message` is written for people, `fieldsText` names
the cause and its fields.

## Main definitions

* `DoorbellError`: Why a handler could not be installed.
* `Refusal`: Why the transport refused.
* `Refusal.source?`: The error that lies beneath a refusal.
-/

namespace BpmpMailbox

/-- Why an interrupt handler could not be installed. -/
inductive DoorbellError where
  /-- There is no doorbell for the core. -/
  | noDoorbell (core : Nat)
  /-- The core has a handler already. -/
  | occupied (core : Nat)
  /-- The substrate failed with a code of its own. -/
  | code (value : Code)
  deriving DecidableEq, Repr

namespace DoorbellError

/-- The name of the cause. -/
def kind : DoorbellError → String
  | .noDoorbell _ => "InvalidCore"
  | .occupied _ => "AlreadyRegistered"
  | .code _ => "Code"

/-- The error in words. -/
def message : DoorbellError → String
  | .noDoorbell core => s!"no doorbell for core {core}"
  | .occupied core => s!"doorbell handler already registered for core {core}"
  | .code value => s!"doorbell substrate error {value.toInt}"

/-- The error with its field. -/
def fieldsText : DoorbellError → String
  | .noDoorbell core => s!"InvalidCore({core})"
  | .occupied core => s!"AlreadyRegistered({core})"
  | .code value => s!"Code({value.toInt})"

end DoorbellError

/-- Why the transport refused an operation. -/
inductive Refusal where
  /-- A register block described for the device could not be mapped. -/
  | noDevice (resource : Nat)
  /-- The firmware has not published the handshake yet. -/
  | notReady
  /-- The firmware reported no shared area for a channel. -/
  | noArea (channel : Nat)
  /-- The shared area of a channel could not be mapped. -/
  | areaNotMapped (channel : Nat)
  /-- Installing an interrupt handler failed. -/
  | handlerNotInstalled (core : Nat) (error : DoorbellError)
  /-- A payload exceeds what one message carries. -/
  | payloadTooLarge (size max : Nat)
  /-- The index is no channel, or the channel has the wrong role. -/
  | invalidChannel (channel : Nat)
  /-- The state of the channel does not grant the caller its buffer. -/
  | channelBusy (channel : Nat) (state : ChannelState)
  /-- The configured window cannot hold a message. -/
  | windowTooSmall (window min : Nat)
  deriving DecidableEq, Repr

namespace Refusal

/-- The name of the cause. -/
def kind : Refusal → String
  | .noDevice _ => "NoDevice"
  | .notReady => "NotReady"
  | .noArea _ => "BadChannelAddress"
  | .areaNotMapped _ => "MapFailed"
  | .handlerNotInstalled .. => "IrqRegistration"
  | .payloadTooLarge .. => "PayloadTooLarge"
  | .invalidChannel _ => "InvalidChannel"
  | .channelBusy .. => "ChannelBusy"
  | .windowTooSmall .. => "WindowTooSmall"

/-- The error in words. -/
def message : Refusal → String
  | .noDevice resource => s!"register block {resource} not present"
  | .notReady => "bpmp handshake not ready"
  | .noArea channel => s!"bpmp returned no area for channel {channel}"
  | .areaNotMapped channel => s!"failed to map area of channel {channel}"
  | .handlerNotInstalled core error =>
    s!"doorbell registration failed on cpu{core}: {error.message}"
  | .payloadTooLarge size max => s!"payload of {size} bytes exceeds {max}"
  | .invalidChannel channel => s!"invalid channel {channel}"
  | .channelBusy channel state => s!"channel {channel} busy ({state.name})"
  | .windowTooSmall window min =>
    s!"area window 0x{hexText window} smaller than message size 0x{hexText min}"

/-- The error with its fields named. -/
def fieldsText : Refusal → String
  | .noDevice resource => s!"NoDevice \x7b resource: {resource} \x7d"
  | .notReady => "NotReady"
  | .noArea channel => s!"BadChannelAddress \x7b channel: {channel} \x7d"
  | .areaNotMapped channel => s!"MapFailed \x7b channel: {channel} \x7d"
  | .handlerNotInstalled core error =>
    s!"IrqRegistration \x7b core: {core}, error: {error.fieldsText} \x7d"
  | .payloadTooLarge size max => s!"PayloadTooLarge \x7b size: {size}, max: {max} \x7d"
  | .invalidChannel channel => s!"InvalidChannel({channel})"
  | .channelBusy channel state =>
    s!"ChannelBusy \x7b channel: {channel}, state: {state.name} \x7d"
  | .windowTooSmall window min => s!"WindowTooSmall \x7b window: {window}, min: {min} \x7d"

/-- The error that lies beneath this one, if there is one. -/
def source? : Refusal → Option DoorbellError
  | .handlerNotInstalled _ error => some error
  | _ => none

end Refusal

end BpmpMailbox
