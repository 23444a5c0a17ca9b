import Mathlib.Data.List.Forall2
import BpmpMailbox.Proofs.Sequencing
import BpmpMailbox.Script.Step

/-!
# Two actions side by side

What one action does says nothing about what it does not depend on. That is a
statement about two runs: started on hardware that differs in certain respects
only, they go the same way. `Alike` compares two actions in this manner. Their
journals are the same throughout, their hardware is related before and after,
and they stop for the same reason or come to results that count as the same.
The two actions may themselves be different, as long as the difference does not
show.

As for single runs the rules follow the way actions are put together, and a
proof for an operation goes through the operation once, for both sides. Where
the operation branches, the branch has to be taken on the same grounds on both
sides; there is no rule for two sides that take different branches.

## Main definitions

* `AlikeEnds`: Two ends that cannot be told apart.
* `Alike`: Two actions that lead to such ends.
* `Unaffected`: An action that goes the same way on related hardware.

## Theorems

* `Alike.bind`: What comes after alike actions may go by what counts as the same.
* `Alike.runStep`, `Alike.runScript`: Steps and scripts of alike actions.
-/

namespace BpmpMailbox

section

variable {σ α β : Type}

/-- Both actions came to results that count as the same, or both stopped for
    the same reason, with related hardware and the same journal. -/
inductive AlikeEnds (rel : σ → σ → Prop) (same : α → α → Prop) :
    EStateM.Result Stop (World σ) α → EStateM.Result Stop (World σ) α → Prop where
  | ok {a b : α} {s t : σ} {journal : List Event} (result : same a b) (hardware : rel s t) :
    AlikeEnds rel same (.ok a ⟨s, journal⟩) (.ok b ⟨t, journal⟩)
  | error {e : Stop} {s t : σ} {journal : List Event} (hardware : rel s t) :
    AlikeEnds rel same (.error e ⟨s, journal⟩) (.error e ⟨t, journal⟩)

/-- Started on related hardware with the same journal, both actions come to
    ends that cannot be told apart. -/
def Alike (rel : σ → σ → Prop) (same : α → α → Prop) (act act' : Action σ α) : Prop :=
  ∀ s t journal, rel s t → AlikeEnds rel same (act ⟨s, journal⟩) (act' ⟨t, journal⟩)

/-- The action goes the same way on related hardware. -/
abbrev Unaffected (rel : σ → σ → Prop) (act : Action σ α) : Prop := Alike rel Eq act act

namespace Alike

variable {rel : σ → σ → Prop} {same : α → α → Prop} {act act' : Action σ α}

theorem mono {same' : α → α → Prop} (h : Alike rel same act act')
    (hsame : ∀ a b, same a b → same' a b) : Alike rel same' act act' := by
  intro s t journal hst
  have hends := h s t journal hst
  generalize act ⟨s, journal⟩ = x at hends ⊢
  generalize act' ⟨t, journal⟩ = y at hends ⊢
  cases hends with
  | ok hab hst' => exact .ok (hsame _ _ hab) hst'
  | error hst' => exact .error hst'

theorem bind {same' : β → β → Prop} {f f' : α → Action σ β} (h : Alike rel same act act')
    (hf : ∀ a b, same a b → Alike rel same' (f a) (f' b)) :
    Alike rel same' (act >>= f) (act' >>= f') := by
  intro s t journal hst
  have hends := h s t journal hst
  change AlikeEnds rel same' (EStateM.bind act f ⟨s, journal⟩) (EStateM.bind act' f' ⟨t, journal⟩)
  unfold EStateM.bind
  generalize act ⟨s, journal⟩ = x at hends ⊢
  generalize act' ⟨t, journal⟩ = y at hends ⊢
  cases hends with
  | ok hab hst' => exact hf _ _ hab _ _ _ hst'
  | error hst' => exact .error hst'

/-- The common case, in which both sides go on with the same result. -/
theorem bind_eq {same' : β → β → Prop} {f f' : α → Action σ β} (h : Alike rel Eq act act')
    (hf : ∀ a, Alike rel same' (f a) (f' a)) : Alike rel same' (act >>= f) (act' >>= f') :=
  h.bind fun a _ hab => hab ▸ hf a

theorem pure {a b : α} (h : same a b) : Alike rel same (pure a) (pure b) :=
  fun _ _ _ hst => .ok h hst

theorem refuse (e : Refusal) : Alike rel same (refuse e) (refuse e) := fun _ _ _ hst => .error hst

theorem fault (f : Fault) : Alike rel same (fault f) (fault f) := fun _ _ _ hst => .error hst

theorem ofExcept (x : Except Fault α) : Unaffected rel (Action.ofExcept x) := by
  cases x with
  | ok a => exact .pure rfl
  | error f => exact .fault f

theorem note (e : Event) : Unaffected rel (note e) := fun _ _ _ hst => .ok rfl hst

theorem log (r : LogRecord) : Unaffected rel (log r) := .note _

theorem hardware : Alike rel rel (hardware : Action σ σ) hardware := fun _ _ _ hst => .ok hst hst

theorem setHardware {f f' : σ → σ} (h : ∀ s t, rel s t → rel (f s) (f' t)) :
    Alike rel Eq (setHardware f) (setHardware f') :=
  fun _ _ _ hst => .ok rfl (h _ _ hst)

theorem ite {c : Prop} [Decidable c] {other other' : Action σ α}
    (ht : c → Alike rel same act act') (hf : ¬ c → Alike rel same other other') :
    Alike rel same (if c then act else other) (if c then act' else other') := by
  split
  · exact ht ‹_›
  · exact hf ‹_›

section Reports

variable {view : α → β}

/-- A step of alike actions: the same answer as far as it is in view, the same
    entries in the journal, and related hardware. -/
theorem runStep (h : Alike rel (fun a b => view a = view b) act act') {s t : σ} (hst : rel s t) :
    (Script.runStep s act).result.map view = (Script.runStep t act').result.map view ∧
      (Script.runStep s act).events = (Script.runStep t act').events ∧
      rel (Script.runStep s act).after (Script.runStep t act').after := by
  have hends := h s t [] hst
  unfold Script.runStep
  generalize act ⟨s, []⟩ = x at hends ⊢
  generalize act' ⟨t, []⟩ = y at hends ⊢
  cases hends with
  | ok hab hst' => exact ⟨congrArg Except.ok hab, rfl, hst'⟩
  | error hst' => exact ⟨rfl, rfl, hst'⟩

/-- So do scripts, step by step. By induction on the steps: the hardware that
    the one before has left is related again. -/
theorem runScript {acts acts' : List (Action σ α)}
    (h : List.Forall₂ (Alike rel fun a b => view a = view b) acts acts') {s t : σ}
    (hst : rel s t) :
    List.Forall₂
      (fun r r' : Script.Report σ α => r.result.map view = r'.result.map view ∧
        r.events = r'.events ∧ rel r.after r'.after)
      (Script.runScript s acts) (Script.runScript t acts') := by
  induction h generalizing s t with
  | nil => exact List.Forall₂.nil
  | cons hact _ ih =>
      have hstep := hact.runStep hst
      exact List.Forall₂.cons hstep (ih hstep.2.2)

end Reports

end Alike

end

end BpmpMailbox
