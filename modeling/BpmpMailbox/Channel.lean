import BpmpMailbox.Fault

/-!
# Channels

Twelve channels share the mailbox, and the index of a channel fixes its role
and its core: 0 to 3 carry requests of one core each that must not be
interrupted, 4 to 7 carry requests of threads, and 8 to 11 carry requests from
the firmware to one core each.

The three functions from a core or a slot to an index are for callers that
know their core, so a number that is no core is a fault and not an answer. The
functions from an index are total: an index past the last channel has no
channel.

## Main definitions

* `coreCount`, `channelCount`: The number of cores and of channels.
* `Role`: What a channel is for.
* `Channel`: An index with its role and core.
* `Channel.ofIndex?`: The channel at an index.
* `Channel.all`: The channels in order of index.
* `atomicIndex`, `threadIndex`, `inboundIndex`: From a core or slot to an index.
* `threadSlot?`: From an index back to the thread slot.

## Theorems

* `Channel.ofIndex?_eq_none_iff`: Only indices past the last channel have none.
* `Channel.index_of_ofIndex?`: The channel at an index has that index.
-/

namespace BpmpMailbox

/-- The number of cores that have channels of their own. -/
def coreCount : Nat := 4

/-- The number of channels. -/
def channelCount : Nat := 12

/-- The first index of the requests that must not be interrupted. -/
def atomicBase : Nat := 0

/-- The first index of the requests of threads. -/
def threadBase : Nat := 4

/-- The first index of the requests from the firmware. -/
def inboundBase : Nat := 8

/-- What a channel is for, and in which direction its requests go. -/
inductive Role where
  /-- Requests to the firmware, one channel per core. -/
  | outboundAtomic
  /-- Requests to the firmware on behalf of threads. -/
  | outboundThread
  /-- Requests from the firmware, one channel per core. -/
  | inbound
  deriving DecidableEq, Repr

namespace Role

/-- Whether requests go to the firmware. -/
def isOutbound : Role → Bool
  | .outboundAtomic | .outboundThread => true
  | .inbound => false

/-- The name of the role as a constant. -/
def name : Role → String
  | .outboundAtomic => "OutboundAtomic"
  | .outboundThread => "OutboundThread"
  | .inbound => "Inbound"

/-- The short name of the role in messages. -/
def label : Role → String
  | .outboundAtomic => "ob-atomic"
  | .outboundThread => "ob-thread"
  | .inbound => "ib"

end Role

/-- A channel index together with its role and the core it belongs to. -/
structure Channel where
  index : Nat
  role : Role
  core : Nat
  deriving DecidableEq, Repr

namespace Channel

/-- The channel at an index, if there is one. -/
def ofIndex? (index : Nat) : Option Channel :=
  if index < threadBase then some ⟨index, .outboundAtomic, index - atomicBase⟩
  else if index < inboundBase then some ⟨index, .outboundThread, index - threadBase⟩
  else if index < channelCount then some ⟨index, .inbound, index - inboundBase⟩
  else none

/-- Every channel in order of index. -/
def all : List Channel := (List.range channelCount).filterMap ofIndex?

/-- The channel in a message: index, role and core. -/
def text (c : Channel) : String := s!"ch{c.index} ({c.role.label} cpu{c.core})"

/-- The channel with its fields named. -/
def fieldsText (c : Channel) : String :=
  s!"Channel \x7b index: {c.index}, role: {c.role.name}, core: {c.core} \x7d"

theorem ofIndex?_eq_none_iff {index : Nat} : ofIndex? index = none ↔ channelCount ≤ index := by
  unfold ofIndex?
  split
  · simp [channelCount, threadBase] at *
    omega
  · split
    · simp [channelCount, inboundBase] at *
      omega
    · split <;> simp_all

theorem index_of_ofIndex? {index : Nat} {c : Channel} (h : ofIndex? index = some c) :
    c.index = index := by
  unfold ofIndex? at h
  repeat' split at h
  all_goals first
    | (injection h with h; subst h; rfl)
    | contradiction

end Channel

/-- The index of the uninterrupted channel of a core. -/
def atomicIndex (core : Nat) : Except Fault Nat :=
  if core < coreCount then .ok (atomicBase + core) else .error .coreOutOfRange

/-- The index of the channel of a thread slot. -/
def threadIndex (slot : Nat) : Except Fault Nat :=
  if slot < coreCount then .ok (threadBase + slot) else .error .slotOutOfRange

/-- The index of the channel on which the firmware calls a core. -/
def inboundIndex (core : Nat) : Except Fault Nat :=
  if core < coreCount then .ok (inboundBase + core) else .error .coreOutOfRange

/-- The thread slot of a channel index, none when it is no thread channel. -/
def threadSlot? (index : Nat) : Option Nat :=
  if index < threadBase ∨ threadBase + coreCount ≤ index then none else some (index - threadBase)

theorem threadSlot?_of_threadIndex {slot index : Nat} (h : threadIndex slot = .ok index) :
    threadSlot? index = some slot := by
  unfold threadIndex at h
  split at h
  · injection h with h
    subst h
    simp [threadSlot?, threadBase]
    omega
  · contradiction

end BpmpMailbox
