import BpmpMailbox.Proofs.Operation

/-!
# Each operation on the chip and on its record

An operation carried out on the chip does what the same operation does to the
record of its channel. There is one statement for each operation, and its
proof goes through the ends that the operation can come to: for each end, what
the chip looks like afterwards is known, and the record of the channel is read
off that.

Of the chip the statements ask that the firmware finds the messages where the
mailbox has its windows. Only an operation that raises a doorbell asks for
more, that the handlers take note of their calls and do nothing else.

## Main definitions

* `Operation.Agrees`: A step of the chip is a step of one record.
* `Operation.raisesDoorbell`: Whether an operation calls a handler.

## Theorems

* `Operation.Agrees.of_ok`, `Operation.Agrees.of_error`: The two ways in which a step agrees.
* `Operation.agrees_send`, `Operation.agrees_collect`, `Operation.agrees_respond`: The operations of
  a mailbox.
* `Operation.agrees_signal`, `Operation.agrees_acknowledge`, `Operation.agrees_release`: Those of
  its semaphore.
* `Operation.agrees_queue`, `Operation.agrees_complete`, `Operation.agrees_post`,
  `Operation.agrees_reclaim`: Those of the firmware.
* `Operation.agrees`: All of them at once.
* `Operation.runStep_outside`: An operation on no channel leaves the chip as it was.
-/

namespace BpmpMailbox

open Script (Reply Report runStep)

namespace Operation

/-- What a step of the chip has left is what the operation makes of the record
    of its channel, and nothing else has changed. -/
structure Agrees (l : Layout) (listening : Nat → Bool) (op : Operation)
    (channel : Fin channelCount) (report : Report Soc Reply) : Prop where
  outcome : op.onRecord listening (report.before.records l channel) =
    (report.result, report.after.records l channel)
  changed : Soc.ChangedOn channel (l.place channel) report.before report.after

section

variable {l : Layout} {listening : Nat → Bool} {op : Operation} {channel : Fin channelCount}
  {act : Action Soc Reply} {s : Soc} {w : World Soc}

theorem Agrees.of_ok {a : Reply} (h : act ⟨s, []⟩ = .ok a w)
    (hchanged : Soc.ChangedOn channel (l.place channel) s w.hardware)
    (houtcome : op.onRecord listening (s.records l channel) =
      (.ok a, w.hardware.records l channel)) :
    Agrees l listening op channel (runStep s act) := by
  rw [runStep_ok h]
  exact ⟨houtcome, hchanged⟩

/-- An operation that fails leaves the chip as it was. -/
theorem Agrees.of_error {e : Stop} {events : List Event}
    (h : act ⟨s, []⟩ = .error e (World.moved ⟨s, []⟩ s events))
    (houtcome : op.onRecord listening (s.records l channel) = (.error e, s.records l channel)) :
    Agrees l listening op channel (runStep s act) := by
  rw [runStep_error h]
  exact ⟨houtcome, Soc.ChangedOn.refl channel _ s⟩

end

section Processor

variable {l : Layout} {mb : Mailbox} (hmb : mb.Placed l.place) (listening : Nat → Bool)
  (mailbox? : Nat → Option Mailbox) (channel : Fin channelCount) (s : Soc)

include hmb

theorem agrees_send (code : Code) (flags : MessageFlags) (payload : List Byte) :
    Agrees l listening (.send channel code flags payload) channel
      (runStep s ((Operation.send channel code flags payload).run mailbox? mb)) := by
  rcases hmb.window channel with ⟨region, hreg, hplace⟩
  by_cases hin : inboundBase ≤ channel.val
  · have hsend := Mailbox.send_notOutbound Soc.platform mb hin code flags payload ⟨s, []⟩
    refine .of_error (bind_error hsend) ?_
    rw [onRecord, if_pos hin]
  · have hout : channel.val < inboundBase := Nat.not_le.mp hin
    by_cases hfree : (s.records l channel).state = .free
    · by_cases hlen : payloadSize < payload.length
      · have hsend := Mailbox.send_tooLarge hmb.semaphore hreg hout code flags ⟨s, []⟩ hfree hlen
        refine .of_error (bind_error hsend) ?_
        rw [onRecord, if_neg hin, if_neg (not_not_intro hfree), if_pos hlen]
      · -- This is the only case in which anything is written.
        have hlen' := Nat.not_lt.mp hlen
        have hsend := Mailbox.send_run hmb.semaphore hreg hout hplace code flags ⟨s, []⟩ hfree hlen'
        refine .of_ok (bind_ok hsend) (Soc.changedOn_sent s channel _ code flags _ hlen') ?_
        rw [onRecord, if_neg hin, if_neg (not_not_intro hfree), if_neg hlen]
        exact congrArg (Prod.mk _) (Soc.recordAt_sent s channel _ code flags hlen' _).symm
    · have hsend := Mailbox.send_busy hmb.semaphore hreg hout code flags payload ⟨s, []⟩ hfree
      refine .of_error (bind_error hsend) ?_
      rw [onRecord, if_neg hin, if_pos hfree]
      rfl

theorem agrees_collect (buffer : List Byte) :
    Agrees l listening (.collect channel buffer) channel
      (runStep s ((Operation.collect channel buffer).run mailbox? mb)) := by
  rcases hmb.window channel with ⟨region, hreg, hplace⟩
  by_cases hin : inboundBase ≤ channel.val
  · -- Refused before the state is looked at.
    have hcollect := Mailbox.collect_notOutbound Soc.platform mb hin buffer ⟨s, []⟩
    refine .of_error (bind_error hcollect) ?_
    rw [onRecord, if_pos hin]
  · have hout : channel.val < inboundBase := Nat.not_le.mp hin
    by_cases hacked : (s.records l channel).state = .acknowledged
    · have hcollect := Mailbox.collect_run hmb.semaphore hreg hout hplace buffer ⟨s, []⟩ hacked
      refine .of_ok (bind_ok hcollect)
        (Soc.changedOn_clearBits s channel _ (Word.release_inside channel)) ?_
      rw [onRecord, if_neg hin, if_neg (not_not_intro hacked)]
      -- The buffer takes the first bytes of the payload, and the state is lowered to free.
      rw [Soc.take_data_records]
      exact congrArg (Prod.mk _) (Soc.records_freed l s channel hacked).symm
    · have hcollect := Mailbox.collect_busy hmb.semaphore hreg hout buffer ⟨s, []⟩ hacked
      refine .of_error (bind_error hcollect) ?_
      rw [onRecord, if_neg hin, if_pos hacked]
      rfl

theorem agrees_respond (code : Code) (data : List Byte) :
    Agrees l listening (.respond channel code data) channel
      (runStep s ((Operation.respond channel code data).run mailbox? mb)) := by
  rcases hmb.window channel with ⟨region, hreg, hplace⟩
  by_cases hlen : payloadSize < data.length
  · have hrespond := Mailbox.respond_tooLarge mb channel.isLt code hlen ⟨s, []⟩
    refine .of_error (bind_error hrespond) ?_
    rw [onRecord, if_pos hlen]
  · have hlen' := Nat.not_lt.mp hlen
    have hrespond := Mailbox.respond_run hmb.semaphore hreg channel.isLt hplace code hlen' ⟨s, []⟩
    -- The flags that steer the answer are those of the record, which the answer keeps.
    refine .of_ok (bind_ok hrespond) (Soc.changedOn_responded s channel _ code _ _ hlen') ?_
    rw [onRecord, if_neg hlen]
    exact congrArg (Prod.mk _) (Soc.recordAt_responded s channel _ code _ hlen' _).symm

theorem agrees_signal :
    Agrees l listening (.signal channel) channel
      (runStep s ((Operation.signal channel).run mailbox? mb)) := by
  have hsignal := Semaphore.signal_run hmb.semaphore channel.isLt ⟨s, []⟩
  refine .of_ok (bind_ok hsignal) (Soc.changedOn_clearBits s channel _ (BitVec.and_not_self _)) ?_
  exact congrArg (Prod.mk _) (Soc.recordAt_signalled s _ channel).symm

theorem agrees_acknowledge (flags : MessageFlags) :
    Agrees l listening (.acknowledge channel flags) channel
      (runStep s ((Operation.acknowledge channel flags).run mailbox? mb)) := by
  have hacknowledge := Semaphore.acknowledge_run hmb.semaphore channel.isLt flags ⟨s, []⟩
  refine .of_ok (bind_ok hacknowledge) (Soc.changedOn_acknowledged s channel _ flags) ?_
  exact congrArg (Prod.mk _) (Soc.recordAt_acknowledged s channel _ flags).symm

theorem agrees_release :
    Agrees l listening (.release channel) channel
      (runStep s ((Operation.release channel).run mailbox? mb)) := by
  by_cases hacked : (s.records l channel).state = .acknowledged
  · have hrelease := Semaphore.release_run hmb.semaphore channel.isLt ⟨s, []⟩ hacked
    refine .of_ok (bind_ok hrelease)
      (Soc.changedOn_clearBits s channel _ (Word.release_inside channel)) ?_
    rw [onRecord, if_pos hacked]
    exact congrArg (Prod.mk _) (Soc.records_freed l s channel hacked).symm
  · -- The assertion stops the release before it writes.
    have hrelease := Semaphore.release_fault hmb.semaphore channel.isLt ⟨s, []⟩ hacked
    refine .of_error (bind_error hrelease) ?_
    rw [onRecord, if_neg hacked]

end Processor

section Firmware

variable {l : Layout} (mb : Mailbox) {s : Soc} (mailbox? : Nat → Option Mailbox)
  (channel : Fin channelCount)

theorem agrees_queue (listening : Nat → Bool) :
    Agrees l listening (.queue channel) channel
      (runStep s ((Operation.queue channel).run mailbox? mb)) := by
  refine .of_ok (bind_ok (Firmware.queue_run channel ⟨s, []⟩))
    (Soc.changedOn_setBits s channel _ (Word.bits_inside .queued channel)) ?_
  exact congrArg (Prod.mk _) (Soc.recordAt_queued s _ channel).symm

theorem agrees_reclaim (listening : Nat → Bool) :
    Agrees l listening (.reclaim channel) channel
      (runStep s ((Operation.reclaim channel).run mailbox? mb)) := by
  refine .of_ok (bind_ok (Firmware.release_run channel ⟨s, []⟩))
    (Soc.changedOn_clearBits s channel _ (Word.release_inside channel)) ?_
  exact congrArg (Prod.mk _) (Soc.recordAt_released s _ channel).symm

variable (hs : s.PlacedAt l)

include hs

theorem agrees_complete (listening : Nat → Bool) (code : Code) (data : List Byte) :
    Agrees l listening (.complete channel code data) channel
      (runStep s ((Operation.complete channel code data).run mailbox? mb)) := by
  by_cases hlen : payloadSize < data.length
  · have hcomplete := Firmware.complete_tooLarge (w := ⟨s, []⟩) (l.inside channel) (hs channel)
      code hlen
    refine .of_error (bind_error hcomplete) ?_
    rw [onRecord, if_pos hlen]
  · have hlen' := Nat.not_lt.mp hlen
    have hcomplete := Firmware.complete_run (w := ⟨s, []⟩) (l.inside channel) (hs channel) code
      hlen'
    refine .of_ok (bind_ok hcomplete) ?_ ?_
    · exact (Soc.changedOn_written s channel _ code _ hlen').trans
        (Soc.changedOn_setBits _ channel _ (Word.bits_inside .acknowledged channel))
    · -- The flags written are those that the request has.
      have hflags : (Message.ofBytes (s.dram.load (l.place channel) messageSize)).flags =
          (s.records l channel).flags := by
        rw [Soc.load_recordAt s channel (l.inside channel), Record.ofBytes_bytes]
        rfl
      have hrecord : ((s.written (l.place channel) code (Message.ofBytes
          (s.dram.load (l.place channel) messageSize)).flags data).setBits
            (ChannelState.acknowledged.bits channel)).records l channel =
          ⟨.acknowledged, code, (s.records l channel).flags,
            (s.records l channel).data.store 0 data⟩ := by
        rw [Soc.records_apply, Soc.recordAt_completed,
          Soc.recordAt_written s channel (l.inside channel) code _ hlen', hflags]
        rfl
      rw [onRecord, if_neg hlen]
      exact congrArg (Prod.mk _) hrecord.symm

theorem agrees_post (hrecords : s.OnlyRecords) {core : Nat} (hcore : core < coreCount)
    (hchannel : inboundBase + core = channel) (code : Code) (flags : MessageFlags)
    (data : List Byte) :
    Agrees l s.isListening (.post core code flags data) channel
      (runStep s ((Operation.post core code flags data).run mailbox? mb)) := by
  by_cases hlen : payloadSize < data.length
  · have hpost := Firmware.post_tooLarge mailbox? hcore code flags hlen ⟨s, []⟩
    refine .of_error (bind_error hpost) ?_
    rw [onRecord, if_pos hlen]
  · have hlen' := Nat.not_lt.mp hlen
    -- The firmware looks the area up by the index of the core's channel.
    have hpost := Firmware.post_run (w := ⟨s, []⟩) mailbox? hcore (l.inside channel)
      (hchannel ▸ hs channel) code flags hlen' hrecords
    refine .of_ok (bind_ok hpost) ?_ ?_
    · rw [hchannel]
      exact Soc.changedOn_posted s channel _ code flags hlen'
    · rw [onRecord, if_neg hlen, hchannel]
      exact congrArg (Prod.mk _) (Soc.records_posted l s channel code flags hlen').symm

end Firmware

/-- Whether an operation raises a doorbell, which calls a handler if there is one. -/
def raisesDoorbell : Operation → Bool
  | .post .. => true
  | _ => false

section

variable {l : Layout} {mb : Mailbox} {s : Soc} (mailbox? : Nat → Option Mailbox) {op : Operation}

/-- Each operation on a channel that exists is the operation on its record. -/
theorem agrees (hmb : mb.Placed l.place) (hs : s.PlacedAt l)
    (hrecords : op.raisesDoorbell = true → s.OnlyRecords) (channel : Fin channelCount)
    (h : op.channel = channel) :
    Agrees l s.isListening op channel (runStep s (op.run mailbox? mb)) := by
  cases op with
  | send c code flags payload =>
      obtain rfl : c = channel.val := h
      exact agrees_send hmb _ mailbox? channel s code flags payload
  | collect c buffer =>
      obtain rfl : c = channel.val := h
      exact agrees_collect hmb _ mailbox? channel s buffer
  | respond c code data =>
      obtain rfl : c = channel.val := h
      exact agrees_respond hmb _ mailbox? channel s code data
  | signal c =>
      obtain rfl : c = channel.val := h
      exact agrees_signal hmb _ mailbox? channel s
  | acknowledge c flags =>
      obtain rfl : c = channel.val := h
      exact agrees_acknowledge hmb _ mailbox? channel s flags
  | release c =>
      obtain rfl : c = channel.val := h
      exact agrees_release hmb _ mailbox? channel s
  | queue c =>
      obtain rfl : c = channel.val := h
      exact agrees_queue mb mailbox? channel _
  | complete c code data =>
      obtain rfl : c = channel.val := h
      exact agrees_complete mb mailbox? channel hs _ code data
  | post core code flags data =>
      have hcore : core < coreCount := by
        have hlt := channel.isLt
        simp only [Operation.channel] at h
        simp only [channelCount, inboundBase, coreCount] at h hlt ⊢
        omega
      exact agrees_post mb mailbox? channel hs (hrecords rfl) hcore h code flags data
  | reclaim c =>
      obtain rfl : c = channel.val := h
      exact agrees_reclaim mb mailbox? channel _

/-- An operation on a channel that does not exist leaves the chip as it was. -/
theorem runStep_outside (mb : Mailbox) (s : Soc) (h : channelCount ≤ op.channel) :
    ∃ events, runStep s (op.run mailbox? mb) = ⟨op.outside, events, s, s⟩ := by
  cases op with
  | send c code flags payload =>
      -- Past the last channel is past the outbound ones, too.
      have hin : inboundBase ≤ c := Nat.le_trans (by decide) h
      exact ⟨_, runStep_error (bind_error
        (Mailbox.send_notOutbound Soc.platform mb hin code flags payload ⟨s, []⟩))⟩
  | collect c buffer =>
      have hin : inboundBase ≤ c := Nat.le_trans (by decide) h
      exact ⟨_, runStep_error (bind_error
        (Mailbox.collect_notOutbound Soc.platform mb hin buffer ⟨s, []⟩))⟩
  | respond c code data =>
      exact ⟨_, runStep_error (bind_error
        (Mailbox.respond_outside Soc.platform mb h code data ⟨s, []⟩))⟩
  | signal c =>
      exact ⟨_, runStep_ok (bind_pure_ok (Semaphore.onChannel_outside .signal h _ ⟨s, []⟩))⟩
  | acknowledge c flags =>
      exact ⟨_, runStep_ok (bind_pure_ok (Semaphore.onChannel_outside .acknowledge h _ ⟨s, []⟩))⟩
  | release c =>
      exact ⟨_, runStep_ok (bind_pure_ok (Semaphore.onChannel_outside .release h _ ⟨s, []⟩))⟩
  | queue c =>
      -- Past the last channel there are no bits to set.
      have hc : channelCount ≤ c := h
      have hbits : s.setBits (ChannelState.queued.bits c) = s := by
        rw [ChannelState.bits_of_le .queued hc, Soc.setBits, BitVec.or_zero]
      have hqueue := runStep_ok (bind_pure_ok (b := Reply.done) (Firmware.queue_run c ⟨s, []⟩))
      exact ⟨_, hqueue.trans (congrArg (Report.mk _ _ s) hbits)⟩
  | complete c code data =>
      exact ⟨_, runStep_error (bind_error (Firmware.complete_outside h code data ⟨s, []⟩))⟩
  | post core code flags data =>
      -- Only a core that does not exist has its channel past the last one.
      have hcore : coreCount ≤ core := by
        simp only [Operation.channel, channelCount, inboundBase, coreCount] at h ⊢
        omega
      exact ⟨_, runStep_error (bind_error
        (Firmware.post_outside mailbox? hcore code flags data ⟨s, []⟩))⟩
  | reclaim c =>
      have hc : channelCount ≤ c := h
      -- Nor are there any to clear.
      have hones : s.word &&& ~~~0#32 = s.word := by rw [BitVec.not_zero, BitVec.and_allOnes]
      have hbits : s.clearBits (releaseBits c) = s := by
        rw [releaseBits, ChannelState.bits_of_le .acknowledged hc, ChannelState.bits_of_le .free hc,
          BitVec.xor_self, Soc.clearBits, hones]
      have hrelease := runStep_ok (bind_pure_ok (b := Reply.done)
        (Firmware.release_run c ⟨s, []⟩))
      exact ⟨_, hrelease.trans (congrArg (Report.mk _ _ s) hbits)⟩

end

end Operation

end BpmpMailbox
