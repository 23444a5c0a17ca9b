import BpmpMailbox.Channel
import BpmpMailbox.Channel.State
import BpmpMailbox.Configuration
import BpmpMailbox.Configuration.Document
import BpmpMailbox.Configuration.Reader
import BpmpMailbox.Decimal.Binary64
import BpmpMailbox.Discovery
import BpmpMailbox.Fault
import BpmpMailbox.Hardware.Action
import BpmpMailbox.Hardware.Bus
import BpmpMailbox.Hardware.Call
import BpmpMailbox.Hardware.Handler
import BpmpMailbox.Hardware.Memory
import BpmpMailbox.Hardware.Platform
import BpmpMailbox.Hardware.WordWindow
import BpmpMailbox.LogRecord
import BpmpMailbox.Mailbox
import BpmpMailbox.Message.Area
import BpmpMailbox.Message.Flags
import BpmpMailbox.Notifier
import BpmpMailbox.Proofs.Accounting
import BpmpMailbox.Proofs.Agreement
import BpmpMailbox.Proofs.BeyondChannels
import BpmpMailbox.Proofs.BringUp
import BpmpMailbox.Proofs.Bytes
import BpmpMailbox.Proofs.CallerBuffer
import BpmpMailbox.Proofs.Contents
import BpmpMailbox.Proofs.Custody
import BpmpMailbox.Proofs.Decoding
import BpmpMailbox.Proofs.DiscoveryRegisters
import BpmpMailbox.Proofs.Discretion
import BpmpMailbox.Proofs.DocumentKeys
import BpmpMailbox.Proofs.Effects.BringUp
import BpmpMailbox.Proofs.Effects.Connect
import BpmpMailbox.Proofs.Effects.Firmware
import BpmpMailbox.Proofs.Effects.Mailbox
import BpmpMailbox.Proofs.Effects.Mapping
import BpmpMailbox.Proofs.Effects.Region
import BpmpMailbox.Proofs.Effects.Semaphore
import BpmpMailbox.Proofs.Ends
import BpmpMailbox.Proofs.FirmwareMemory
import BpmpMailbox.Proofs.Frame
import BpmpMailbox.Proofs.HandOver
import BpmpMailbox.Proofs.History
import BpmpMailbox.Proofs.Holding
import BpmpMailbox.Proofs.Inbound
import BpmpMailbox.Proofs.Interrupts
import BpmpMailbox.Proofs.Lanes
import BpmpMailbox.Proofs.MessageArea
import BpmpMailbox.Proofs.Operation
import BpmpMailbox.Proofs.Outbound
import BpmpMailbox.Proofs.Outcome
import BpmpMailbox.Proofs.Overrun
import BpmpMailbox.Proofs.Ownership
import BpmpMailbox.Proofs.PackedWord
import BpmpMailbox.Proofs.PhysicalMemory
import BpmpMailbox.Proofs.Payloads
import BpmpMailbox.Proofs.Readiness
import BpmpMailbox.Proofs.Reading
import BpmpMailbox.Proofs.Record
import BpmpMailbox.Proofs.Refinement
import BpmpMailbox.Proofs.Refusals
import BpmpMailbox.Proofs.RegisterDiscipline
import BpmpMailbox.Proofs.Retry
import BpmpMailbox.Proofs.Rings
import BpmpMailbox.Proofs.Sequencing
import BpmpMailbox.Proofs.SharedWindows
import BpmpMailbox.Proofs.SideBySide
import BpmpMailbox.Proofs.Totality
import BpmpMailbox.Proofs.Upkeep
import BpmpMailbox.Proofs.Widths
import BpmpMailbox.Proofs.WindowCopies
import BpmpMailbox.Proofs.WindowGuards
import BpmpMailbox.Refusal
import BpmpMailbox.Script.Bench
import BpmpMailbox.Script.Session
import BpmpMailbox.Script.Step
import BpmpMailbox.Semaphore
import BpmpMailbox.Soc.Basic
import BpmpMailbox.Soc.Firmware
import BpmpMailbox.Soc.Interrupt
import BpmpMailbox.Soc.Platform
import BpmpMailbox.Soc.Window
import BpmpMailbox.Text.Quoted
import BpmpMailbox.Text.Visible
import BpmpMailbox.Toml.Document
import BpmpMailbox.Toml.Expression
import BpmpMailbox.Toml.Moment
import BpmpMailbox.Toml.Number
import BpmpMailbox.Toml.Scan
import BpmpMailbox.Toml.Table
import BpmpMailbox.Toml.Text
import BpmpMailbox.Toml.Value
import BpmpMailbox.Word
