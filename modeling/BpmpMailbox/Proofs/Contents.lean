import BpmpMailbox.Proofs.Bytes
import BpmpMailbox.Message.Area
import BpmpMailbox.Soc.Firmware

/-!
# The contents of a message

The 128 bytes of a message are a record of three fields: the code, the flags,
and 120 bytes of payload. This module reads the record off any memory that has
room for a message at some place, and says what a store to one of the fields
does to it. The fields lie side by side, so such a store changes its own field
and no other.

The two ways of looking at a message lose nothing. The bytes are those of the
record (`Memory.load_contentsAt`), and a reader that cuts the fields out of
the bytes finds the record again (`Contents.ofBytes_bytes`).

## Main definitions

* `Contents`: The three fields of a message.
* `Contents.bytes`: The message as it lies in memory.
* `Contents.message`: The message as the firmware sees it.
* `Memory.contentsAt`, `Memory.contents`: The record read off a memory.

## Theorems

* `Memory.contentsAt_code`, `Memory.contentsAt_flags`, `Memory.contentsAt_payload`: A store to one
  field changes that field.
* `Memory.contentsAt_message`: Writing all three.
* `Memory.load_contentsAt`, `Memory.contentsAt_eq_of_load`: The bytes of a message are those of its
  record, and of no other.
* `Contents.ofBytes_bytes`, `Contents.eq_of_bytes`: The record is found again in its bytes.
-/

namespace BpmpMailbox

/-- The fields of a message, the whole payload included. -/
@[ext]
structure Contents where
  code : Code
  flags : MessageFlags
  data : Memory payloadSize
  deriving DecidableEq

namespace Contents

/-- The fields one after the other, as they lie in memory. -/
def bytes (c : Contents) : List Byte :=
  Word.toBytes c.code ++ (Word.toBytes c.flags.bits ++ c.data.bytes)

/-- The message that the firmware sees. -/
def message (c : Contents) : Message := ⟨c.code, c.flags, c.data.bytes⟩

theorem ofBytes_bytes (c : Contents) : Message.ofBytes c.bytes = c.message := by
  -- The three parts have fixed lengths, so each can be cut out again.
  have hdata : c.data.bytes.take payloadSize = c.data.bytes :=
    List.take_of_length_le (Nat.le_of_eq c.data.length_bytes)
  have hcode : c.bytes.take 4 = Word.toBytes c.code := List.take_left' (Word.length_toBytes _)
  have hflags : c.bytes.drop flagsOffset = Word.toBytes c.flags.bits ++ c.data.bytes :=
    List.drop_left' (Word.length_toBytes _)
  have hpayload : c.bytes.drop payloadOffset = c.data.bytes := by
    rw [show payloadOffset = flagsOffset + 4 from rfl, ← List.drop_drop, hflags]
    exact List.drop_left' (Word.length_toBytes _)
  have hword : (Word.toBytes c.flags.bits ++ c.data.bytes).take 4 = Word.toBytes c.flags.bits :=
    List.take_left' (Word.length_toBytes _)
  simp only [Message.ofBytes, message, hcode, hflags, hword, hpayload, hdata,
    Word.ofBytes_toBytes]

/-- A record is determined by its bytes. -/
theorem eq_of_bytes {c d : Contents} (h : c.bytes = d.bytes) : c = d := by
  have hmessage : c.message = d.message := by rw [← ofBytes_bytes, ← ofBytes_bytes, h]
  rw [message, message, Message.mk.injEq] at hmessage
  exact Contents.ext hmessage.1 hmessage.2.1 (Memory.eq_of_bytes hmessage.2.2)

end Contents

namespace Memory

variable {size : Nat} (m : Memory size) {place : Nat} (h : place + messageSize ≤ size)

/-- The message that begins at a place. -/
def contentsAt : Contents where
  code := m.loadWord (place + codeOffset)
  flags := ⟨m.loadWord (place + flagsOffset)⟩
  data := ⟨m.load (place + payloadOffset) payloadSize, length_load _ _ _
    (by simp only [payloadOffset, payloadSize, messageSize] at h ⊢; omega)⟩

theorem contentsAt_code (code : Code) :
    (m.storeWord (place + codeOffset) code).contentsAt h =
      { m.contentsAt h with code := code } := by
  -- The flags and the payload lie behind the code.
  have hin : place + codeOffset + 4 ≤ size := by
    simp only [codeOffset, messageSize] at h ⊢
    omega
  have hflags := load_store_of_disjoint m (place + codeOffset) (Word.toBytes code)
    (place + flagsOffset) 4
    (Or.inr (by simp only [Word.length_toBytes, codeOffset, flagsOffset]; omega))
  have hdata := load_store_of_disjoint m (place + codeOffset) (Word.toBytes code)
    (place + payloadOffset) payloadSize
    (Or.inr (by simp only [Word.length_toBytes, codeOffset, payloadOffset]; omega))
  refine Contents.ext ?_ ?_ (eq_of_bytes hdata)
  · exact loadWord_storeWord m _ code hin
  · simp only [contentsAt, storeWord, loadWord, hflags]

theorem contentsAt_flags (flags : MessageFlags) :
    (m.storeWord (place + flagsOffset) flags.bits).contentsAt h =
      { m.contentsAt h with flags := flags } := by
  -- The code lies before the flags, and the payload behind them.
  have hin : place + flagsOffset + 4 ≤ size := by
    simp only [flagsOffset, messageSize] at h ⊢
    omega
  have hcode := load_store_of_disjoint m (place + flagsOffset) (Word.toBytes flags.bits)
    (place + codeOffset) 4 (Or.inl (by simp only [codeOffset, flagsOffset]; omega))
  have hdata := load_store_of_disjoint m (place + flagsOffset) (Word.toBytes flags.bits)
    (place + payloadOffset) payloadSize
    (Or.inr (by simp only [Word.length_toBytes, flagsOffset, payloadOffset]; omega))
  refine Contents.ext ?_ ?_ (eq_of_bytes hdata)
  · simp only [contentsAt, storeWord, loadWord, hcode]
  · exact congrArg MessageFlags.mk (loadWord_storeWord m _ flags.bits hin)

theorem contentsAt_payload {data : List Byte} (hlen : data.length ≤ payloadSize) :
    (m.store (place + payloadOffset) data).contentsAt h =
      { m.contentsAt h with data := (m.contentsAt h).data.store 0 data } := by
  -- The code and the flags lie before the payload.
  have hin : place + payloadOffset + data.length ≤ size := by
    simp only [payloadOffset, payloadSize, messageSize] at h hlen ⊢
    omega
  have hcode := load_store_of_disjoint m (place + payloadOffset) data
    (place + codeOffset) 4 (Or.inl (by simp only [codeOffset, payloadOffset]; omega))
  have hflags := load_store_of_disjoint m (place + payloadOffset) data
    (place + flagsOffset) 4 (Or.inl (by simp only [flagsOffset, payloadOffset]; omega))
  refine Contents.ext ?_ ?_ (eq_of_bytes ?_)
  · simp only [contentsAt, loadWord, hcode]
  · simp only [contentsAt, loadWord, hflags]
  · rw [bytes_store_zero _ hlen]
    exact load_store_of_le m (place + payloadOffset) data payloadSize hlen hin

/-- A whole message, written field by field. -/
theorem contentsAt_message (code : Code) (flags : MessageFlags) {data : List Byte}
    (hlen : data.length ≤ payloadSize) :
    (((m.storeWord (place + codeOffset) code).storeWord (place + flagsOffset) flags.bits).store
      (place + payloadOffset) data).contentsAt h =
        ⟨code, flags, (m.contentsAt h).data.store 0 data⟩ := by
  rw [contentsAt_payload _ h hlen, contentsAt_flags, contentsAt_code]

theorem load_contentsAt : m.load place messageSize = (m.contentsAt h).bytes := by
  have hcode := toBytes_loadWord m (place + codeOffset)
    (by simp only [codeOffset, messageSize] at h ⊢; omega)
  have hflags := toBytes_loadWord m (place + flagsOffset)
    (by simp only [flagsOffset, messageSize] at h ⊢; omega)
  rw [show messageSize = 4 + (4 + payloadSize) from rfl, load_add, load_add]
  simp only [Contents.bytes, contentsAt, hcode, hflags]
  rfl

theorem contentsAt_eq_of_load {c : Contents} (hload : m.load place messageSize = c.bytes) :
    m.contentsAt h = c :=
  Contents.eq_of_bytes ((m.load_contentsAt h).symm.trans hload)

/-- The message that fills a memory. -/
def contents (m : Memory messageSize) : Contents := m.contentsAt (Nat.le_of_eq (Nat.zero_add _))

theorem bytes_contents (m : Memory messageSize) : m.contents.bytes = m.bytes := by
  rw [contents, ← load_contentsAt, load_eq_self]

end Memory

end BpmpMailbox
