import BpmpMailbox.Word

/-!
# Message flags

The requester of a message leaves a word of flags in its header. Two bits have
a meaning; the others are kept as they are, so a flags word that passes through
the transport comes out unchanged.

## Main definitions

* `MessageFlags`: A flags word.
* `MessageFlags.doAck`, `MessageFlags.ringDoorbell`: The two flags with a meaning.
* `MessageFlags.contains`, `MessageFlags.intersects`: All, or some, of the bits asked for.
* `MessageFlags.ofBits?`, `MessageFlags.truncate`: Refusing, or dropping, unknown bits.
* `MessageFlags.text`: The names of the flags.
-/

namespace BpmpMailbox

/-- The flags word in a message header, unknown bits included. -/
structure MessageFlags where
  bits : Word
  deriving DecidableEq, Repr

namespace MessageFlags

/-- The requester wants to see the acknowledgement before the channel is freed. -/
def doAck : MessageFlags := ⟨1#32⟩

/-- The requester wants a doorbell once the response is in place. -/
def ringDoorbell : MessageFlags := ⟨2#32⟩

/-- No flag at all. -/
def empty : MessageFlags := ⟨0#32⟩

/-- Every flag with a meaning. -/
def known : MessageFlags := ⟨doAck.bits ||| ringDoorbell.bits⟩

/-- Whether every bit of `g` is among those of `f`. -/
def contains (f g : MessageFlags) : Bool := f.bits &&& g.bits == g.bits

/-- Whether some bit of `g` is among those of `f`. -/
def intersects (f g : MessageFlags) : Bool := f.bits &&& g.bits != 0#32

/-- Whether no bit is set. -/
def isEmpty (f : MessageFlags) : Bool := f.bits == 0#32

/-- Whether both flags with a meaning are set, whatever the other bits are. -/
def isAll (f : MessageFlags) : Bool := f.contains known

/-- The flags without the unknown bits. -/
def truncate (f : MessageFlags) : MessageFlags := ⟨f.bits &&& known.bits⟩

/-- The flags with a meaning that are not set. -/
def complement (f : MessageFlags) : MessageFlags := truncate ⟨~~~f.bits⟩

/-- The flags of a word, none when it has an unknown bit. -/
def ofBits? (w : Word) : Option MessageFlags :=
  if w &&& ~~~known.bits = 0#32 then some ⟨w⟩ else none

/-- The names of the flags that are set, then the unknown bits as one number. -/
def parts (f : MessageFlags) : List String :=
  (if f.contains doAck then ["DO_ACK"] else []) ++
  (if f.contains ringDoorbell then ["RING_DOORBELL"] else []) ++
  (let unknown := f.bits &&& ~~~known.bits
   if unknown = 0#32 then [] else [s!"0x{hexText unknown.toNat}"])

/-- The flags in a message. -/
def text (f : MessageFlags) : String :=
  if f.isEmpty then "MsgFlags(0x0)" else "MsgFlags(" ++ String.intercalate " | " f.parts ++ ")"

end MessageFlags

end BpmpMailbox
