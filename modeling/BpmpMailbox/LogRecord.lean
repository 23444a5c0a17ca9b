import BpmpMailbox.Refusal
import BpmpMailbox.Message.Flags

/-!
# Log records

What the transport and the simulated chip report while they work. A record is
kept as the fact it reports, and `LogRecord.level` and `LogRecord.message` say
how the fact is written down; so a statement about the log can speak of the
fact and does not have to read a text. No record has a place for payload
bytes: a payload appears in the log by its length at most.

## Main definitions

* `LogLevel`: How much a record matters.
* `LogRecord`: The facts that are reported.
* `LogRecord.level`, `LogRecord.message`, `LogRecord.text`: A record in words.
-/

namespace BpmpMailbox

/-- How much a record matters, most important first. -/
inductive LogLevel where
  | error
  | warn
  | info
  | debug
  | trace
  deriving DecidableEq, Repr

/-- The name of a level. -/
def LogLevel.name : LogLevel → String
  | .error => "ERROR"
  | .warn => "WARN"
  | .info => "INFO"
  | .debug => "DEBUG"
  | .trace => "TRACE"

/-- The semaphore operations that change a channel's state. -/
inductive StateChange where
  | signal
  | acknowledge
  | release
  deriving DecidableEq, Repr

/-- The name of a state change. -/
def StateChange.name : StateChange → String
  | .signal => "signal_slave"
  | .acknowledge => "ack_master"
  | .release => "release_after_ack"

/-- The facts that are reported. -/
inductive LogRecord where
  /-- A channel was handed to the slave. -/
  | signalled (channel : Nat)
  /-- A response was acknowledged for a message with these flags. -/
  | acknowledged (channel : Nat) (flags : MessageFlags)
  /-- An acknowledged channel was freed. -/
  | released (channel : Nat)
  /-- A state change named an index that is no channel. -/
  | changeIgnored (change : StateChange) (channel : Nat)
  /-- The semaphore word was still zero. -/
  | handshakeMissing
  /-- The firmware reported no area for a channel. -/
  | noAreaReported (channel : Nat)
  /-- The area of a channel was mapped. -/
  | areaMapped (channel : Channel) (addr : Word)
  /-- The area of a channel could not be mapped. -/
  | areaNotMapped (channel : Nat) (addr : Word)
  /-- A mailbox was brought up. -/
  | connected (channels : Nat) (line : Word)
  /-- A mailbox was taken down. -/
  | disconnected
  /-- The doorbell was rung for a channel. -/
  | ringing (line : Word) (channel : Nat)
  /-- A core's interrupt handler was not installed. -/
  | registrationFailed (core : Nat) (error : DoorbellError)
  /-- Every core's interrupt handler was installed. -/
  | handlersInstalled
  /-- A response named an index that is no channel. -/
  | responseToInvalid (channel : Nat)
  /-- A response exceeds what one message carries. -/
  | responseTooLarge (channel size max : Nat)
  /-- A response was given while no request was waiting. -/
  | responseUnasked (channel : Nat) (state : ChannelState)
  /-- A doorbell rang for a core that has no handler. -/
  | spuriousDoorbell (core : Nat)
  /-- A semaphore register that cannot be written was written. -/
  | readOnlyWrite (value : Word) (addr : Nat)
  deriving DecidableEq, Repr

namespace LogRecord

/-- How much the record matters. -/
def level : LogRecord → LogLevel
  | .signalled _ | .acknowledged .. | .released _ | .ringing .. => .trace
  | .areaMapped .. => .debug
  | .connected .. | .disconnected | .handlersInstalled => .info
  | .changeIgnored .. | .handshakeMissing | .responseTooLarge .. | .responseUnasked ..
  | .spuriousDoorbell _ | .readOnlyWrite .. => .warn
  | .noAreaReported _ | .areaNotMapped .. | .registrationFailed .. | .responseToInvalid _ => .error

/-- The record in words. -/
def message : LogRecord → String
  | .signalled channel => s!"bpmp-t210: ch{channel} -> SL_SIGL"
  | .acknowledged channel flags => s!"bpmp-t210: ch{channel} -> MA_ACKD ({flags.text})"
  | .released channel => s!"bpmp-t210: ch{channel} -> MA_FREE"
  | .changeIgnored change channel =>
    s!"bpmp-t210: {change.name} on invalid channel {channel} ignored"
  | .handshakeMissing => "bpmp-t210: handshake not published yet"
  | .noAreaReported channel => s!"bpmp-t210: no area reported for channel {channel}"
  | .areaMapped channel addr => s!"bpmp-t210: {channel.text} area at 0x{hexText addr.toNat}"
  | .areaNotMapped channel addr =>
    s!"bpmp-t210: failed to map area of channel {channel} at 0x{hexText addr.toNat}"
  | .connected channels line =>
    s!"bpmp-t210: connected, {channels} channels, doorbell line {line.toNat}"
  | .disconnected => "bpmp-t210: disconnected"
  | .ringing line channel => s!"bpmp-t210: ring line {line.toNat} for ch{channel}"
  | .registrationFailed core error =>
    s!"bpmp-t210: doorbell registration on cpu{core} failed: {error.message}"
  | .handlersInstalled => s!"bpmp-t210: doorbell handlers installed on {coreCount} cpus"
  | .responseToInvalid channel => s!"bpmp-t210: return_data on invalid channel {channel}"
  | .responseTooLarge channel size max =>
    s!"bpmp-t210: return_data on ch{channel}: {size} byte payload exceeds {max}"
  | .responseUnasked channel state =>
    s!"bpmp-t210: return_data on ch{channel} while {state.name}"
  | .spuriousDoorbell core => s!"sim: spurious doorbell on cpu{core}"
  | .readOnlyWrite value addr =>
    s!"sim: write 0x{hexText value.toNat} to read-only semaphore register 0x{hexText addr}"

/-- The record as one line: level, then message. -/
def text (r : LogRecord) : String := r.level.name ++ " " ++ r.message

end LogRecord

end BpmpMailbox
