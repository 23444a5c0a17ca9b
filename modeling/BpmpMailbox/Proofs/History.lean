import BpmpMailbox.Proofs.Refinement

/-!
# Runs under a rule

A protocol is a rule about which operation may be taken in which state. A run
under a rule is any interleaving of operations that keeps to it, and what is
remembered of a run is the operations taken and their answers. Nothing is said
about who takes the next step, so a statement about all runs is one about
every order in which the two sides can act.

What a protocol promises is a relation between the past of a channel and the
record that the channel has become. `Run.record_induction` is the way to prove
such a relation: it has to hold at the start, to survive each operation on the
channel that the rule allows, and not to mind operations on other channels.
The chip itself does not appear in what remains to be shown.

## Main definitions

* `Entry`: One operation of a run, with its answer.
* `Run`: The runs in which every operation is allowed in the state in which it is taken.
* `Operation.Yields`: An operation comes to its end with a reply, and leaves its channel in a
  state.
* `Delivered`: A buffer holds the first bytes of some data.

## Theorems

* `Run.snoc_ok`: A run goes on with an operation that comes to its end.
* `Run.kept`: A run leaves everything besides the channels alone.
* `Run.step_effect`: The next operation is the operation on the records.
* `Run.yields`: What it comes to on the record of its channel, it comes to on the chip.
* `Run.record_induction`: A relation between the past of a channel and its record.
-/

namespace BpmpMailbox

open Script (Reply runStep)

/-- One operation of a run, with its answer. -/
structure Entry where
  operation : Operation
  result : Except Stop Reply

/-- The runs from `start` in which every operation is allowed in the state in
    which it is taken: the operations so far, and the chip that they have left. -/
inductive Run (allowed : Soc → Operation → Prop) (mailbox? : Nat → Option Mailbox) (mb : Mailbox)
    (start : Soc) : List Entry → Soc → Prop where
  | nil : Run allowed mailbox? mb start [] start
  | snoc {past : List Entry} {s : Soc} (op : Operation) :
    Run allowed mailbox? mb start past s → allowed s op →
      Run allowed mailbox? mb start
        (past ++ [⟨op, (runStep s (op.run mailbox? mb)).result⟩])
        (runStep s (op.run mailbox? mb)).after

/-- The operation comes to its end with this reply, and leaves its channel in
    this state. -/
def Operation.Yields (op : Operation) (mailbox? : Nat → Option Mailbox) (mb : Mailbox) (s : Soc)
    (reply : Reply) (state : ChannelState) : Prop :=
  (runStep s (op.run mailbox? mb)).result = .ok reply ∧
    (runStep s (op.run mailbox? mb)).after.state op.channel = .ok state

/-- The buffer holds the first bytes of the data, as many as there are in both. -/
def Delivered (data : List Byte) (count : Nat) (filled : List Byte) : Prop :=
  filled.take (min count data.length) = data.take (min count data.length)

/-- A buffer filled from a payload that begins with the data holds the data's first bytes. -/
theorem delivered_take_append {data bytes rest : List Byte} (h : data <+: bytes) {count : Nat}
    (hcount : count ≤ bytes.length) : Delivered data count (bytes.take count ++ rest) := by
  have hmin : min count data.length ≤ count := Nat.min_le_left _ _
  rcases h with ⟨more, rfl⟩
  -- Both sides are the first bytes of the data, and neither reaches past its end.
  rw [Delivered, List.take_append_of_le_length (by rw [List.length_take]; omega),
    List.take_take, Nat.min_eq_left hmin,
    List.take_append_of_le_length (Nat.min_le_right _ _)]

theorem filterMap_snoc {α β : Type} (f : α → Option β) (xs : List α) (x : α) :
    (xs ++ [x]).filterMap f = xs.filterMap f ++ (f x).toList := by
  rw [List.filterMap_append, List.filterMap_cons]
  cases f x <;> rfl

/-- What holds of each entry by its number still holds after one more. -/
theorem forall_getElem?_snoc {α : Type} {P : Nat → α → Prop} {xs : List α} {x : α}
    (h : ∀ i y, xs[i]? = some y → P i y) (hx : P xs.length x) :
    ∀ i y, (xs ++ [x])[i]? = some y → P i y := by
  intro i y hget
  by_cases hi : i < xs.length
  · rw [List.getElem?_append_left hi] at hget
    exact h i y hget
  · rw [List.getElem?_append_right (Nat.not_lt.mp hi), List.getElem?_singleton] at hget
    -- A number past the others can only be that of the new entry.
    split at hget
    · have hlast : xs.length = i := by omega
      rw [← hlast, ← Option.some.inj hget]
      exact hx
    · cases hget

/-- Entries that take turns still do after one more whose turn it is, and the
    turn after it comes next. -/
theorem turns_snoc {α : Type} {turn : α → Nat} {period next : Nat} {xs : List α} {x : α}
    (h : ∀ i y, xs[i]? = some y → turn y = i % period) (hx : xs.length % period = turn x)
    (hnext : (turn x + 1) % period = next) :
    (∀ i y, (xs ++ [x])[i]? = some y → turn y = i % period) ∧
      (xs ++ [x]).length % period = next := by
  refine ⟨forall_getElem?_snoc h hx.symm, ?_⟩
  rw [List.length_append, List.length_singleton, ← hnext, ← hx, Nat.mod_add_mod]

namespace Run

variable {allowed : Soc → Operation → Prop} {mailbox? : Nat → Option Mailbox} {mb : Mailbox}
  {start s : Soc} {past : List Entry}

/-- A run goes on with an operation that comes to its end. -/
theorem snoc_ok (h : Run allowed mailbox? mb start past s) {op : Operation}
    (hallowed : allowed s op) {reply : Reply}
    (hok : (runStep s (op.run mailbox? mb)).result = .ok reply) :
    Run allowed mailbox? mb start (past ++ [⟨op, .ok reply⟩])
      (runStep s (op.run mailbox? mb)).after := by
  rw [← hok]
  exact h.snoc op hallowed

variable {l : Layout} (hmb : mb.Placed l.place) (hs : start.PlacedAt l)
  (hrecords : ∀ s op, allowed s op → op.raisesDoorbell = true → start.OnlyRecords)

include hmb hs hrecords

/-- A run leaves everything besides the channels alone. -/
theorem kept (h : Run allowed mailbox? mb start past s) : start.Kept l s := by
  induction h with
  | nil => exact Soc.Kept.refl l start
  | @snoc past s op hrun hallowed ih =>
      -- What the step needs of the chip holds of the one that the steps before have left.
      have hstep := Operation.runStep_effect mailbox? op hmb (ih.placedAt hs)
        (fun hraises => ih.onlyRecords (hrecords s op hallowed hraises))
      exact ih.trans (Soc.Kept.of_confined hstep.2)

/-- The next operation of a run is the operation on the records. -/
theorem step_effect (h : Run allowed mailbox? mb start past s) {op : Operation}
    (hallowed : allowed s op) :
    op.effect start.isListening (s.records l) =
        ((runStep s (op.run mailbox? mb)).result,
          (runStep s (op.run mailbox? mb)).after.records l) ∧
      op.Confined l s (runStep s (op.run mailbox? mb)).after := by
  have hkept := kept hmb hs hrecords h
  -- The handlers are still those of the start.
  rw [← hkept.isListening_eq]
  exact Operation.runStep_effect mailbox? op hmb (hkept.placedAt hs)
    (fun hraises => hkept.onlyRecords (hrecords s op hallowed hraises))

/-- What the next operation comes to on the record of its channel, it comes to
    on the chip. -/
theorem yields (h : Run allowed mailbox? mb start past s) {op : Operation}
    (hallowed : allowed s op) {channel : Fin channelCount} (hc : op.channel = channel)
    {reply : Reply} {r : Record}
    (hrecord : op.onRecord start.isListening (s.records l channel) = (.ok reply, r)) :
    op.Yields mailbox? mb s reply r.state := by
  have heffect := (step_effect hmb hs hrecords h hallowed).1
  rw [Operation.effect_inside _ _ channel hc, hrecord] at heffect
  have hresult := congrArg Prod.fst heffect
  have hafter := congrArg (fun outcome => (outcome.2 channel).state) heffect
  simp only [Function.update_self] at hresult hafter
  refine ⟨hresult.symm, ?_⟩
  rw [hc]
  exact (Soc.state_eq_ok_iff l _ channel).mpr hafter.symm

/-- A relation between the past of a channel and its record holds in every
    run, if it holds at the start, survives every operation on the channel that
    is allowed, and does not mind operations on other channels. -/
theorem record_induction {channel : Fin channelCount} {P : List Entry → Record → Prop}
    (hnil : P [] (start.records l channel))
    (hown : ∀ past s op, allowed s op → op.channel = channel → P past (s.records l channel) →
      P (past ++ [⟨op, (op.onRecord start.isListening (s.records l channel)).1⟩])
        (op.onRecord start.isListening (s.records l channel)).2)
    (hother : ∀ past (op : Operation) result r, op.channel ≠ channel → P past r →
      P (past ++ [⟨op, result⟩]) r)
    (h : Run allowed mailbox? mb start past s) : P past (s.records l channel) := by
  induction h with
  | nil => exact hnil
  | @snoc past s op hrun hallowed ih =>
      have heffect := (step_effect hmb hs hrecords hrun hallowed).1
      have hresult := (congrArg Prod.fst heffect).symm
      have hafter := (congrArg (fun outcome => outcome.2 channel) heffect).symm
      simp only at hresult hafter
      -- From here on the step is one on the records, and the chip no longer matters.
      rw [hresult, hafter]
      by_cases hc : op.channel = channel
      · rw [Operation.effect_inside _ _ channel hc]
        simp only [Function.update_self]
        exact hown past s op hallowed hc ih
      · rw [Operation.effect_of_ne _ _ _ (Ne.symm hc)]
        exact hother past op _ _ hc ih

end Run

end BpmpMailbox
