import BpmpMailbox.Proofs.Sequencing
import BpmpMailbox.Script.Step

/-!
# How actions end

The run lemmas say exactly what an action does to a world. For a property of
many actions at once that is too much: most of them leave most of a machine
alone, and a proof that goes through every outcome of every operation says so
again and again. `Ends` says less. From a world where `pre` holds the action
comes to a result and a world where `post` holds, or stops where `stop` holds;
a stop is described like a result, because what an action has changed by then
remains changed.

The rules follow the way actions are put together, one for each primitive and
one for sequencing. `Maintains` is the case where all three predicates are the
same one, and the rules specialise to it.

## Main definitions

* `Ends`: What holds when an action comes to its end.
* `Maintains`: A property is there after the action if it was there before.
* `World.after`: The world that an action leaves.
* `World.answer`: What an action comes to.
* `Never`: No stop.
* `Bus.ReadsMaintain`, `Bus.Maintains`: Every read of a bus, or every access, maintains a property.

## Theorems

* `Ends.bind`: A sequence passes through the end of its first part.
* `Ends.mono`: Ask for more, promise less.
* `Ends.after`: What holds at the end holds of the world that is left.
* `Ends.attempt`: Refusals become results.
* `Ends.forM`, `Maintains.forM`: One thing after the other.
-/

namespace BpmpMailbox

section

variable {σ α β : Type}

/-- Started where `pre` holds, the action comes to a result where `post` holds
    of it, or stops where `stop` holds. -/
def Ends (pre : World σ → Prop) (act : Action σ α) (post : α → World σ → Prop)
    (stop : Stop → World σ → Prop) : Prop :=
  ∀ w, pre w →
    match act w with
    | .ok a w' => post a w'
    | .error e w' => stop e w'

/-- A property is there when the action ends if it was there before. -/
abbrev Maintains (P : World σ → Prop) (act : Action σ α) : Prop :=
  Ends P act (fun _ => P) (fun _ => P)

/-- The world that an action leaves, whether it comes to a result or stops. -/
def World.after (w : World σ) (act : Action σ α) : World σ :=
  match act w with
  | .ok _ w' => w'
  | .error _ w' => w'

theorem World.after_ok {act : Action σ α} {a : α} {w w' : World σ} (h : act w = .ok a w') :
    w.after act = w' := by
  simp only [World.after, h]

theorem World.after_error {act : Action σ α} {e : Stop} {w w' : World σ}
    (h : act w = .error e w') : w.after act = w' := by
  simp only [World.after, h]

/-- What an action comes to, whatever world it leaves. -/
def World.answer (w : World σ) (act : Action σ α) : Except Stop α :=
  match act w with
  | .ok a _ => .ok a
  | .error e _ => .error e

theorem World.answer_ok {act : Action σ α} {a : α} {w w' : World σ} (h : act w = .ok a w') :
    w.answer act = .ok a := by
  simp only [World.answer, h]

theorem World.answer_error {act : Action σ α} {e : Stop} {w w' : World σ}
    (h : act w = .error e w') : w.answer act = .error e := by
  simp only [World.answer, h]

/-- What holds at the end, whether it is a result or a stop, holds of the world that is left. -/
theorem Ends.after {pre P : World σ → Prop} {act : Action σ α}
    (h : Ends pre act (fun _ => P) (fun _ => P)) {w : World σ} (hw : pre w) :
    P (w.after act) := by
  have hend := h w hw
  unfold World.after
  split <;> rename_i hact <;> rw [hact] at hend <;> exact hend

theorem Maintains.of_after {P : World σ → Prop} {act : Action σ α}
    (h : ∀ w, P w → P (w.after act)) : Maintains P act := by
  intro w hw
  have hafter := h w hw
  unfold World.after at hafter
  split <;> rename_i hact <;> rw [hact] at hafter <;> exact hafter

/-- What a step leaves is what its action leaves. -/
theorem Script.runStep_after (s : σ) (act : Action σ α) :
    (Script.runStep s act).after = (World.after ⟨s, []⟩ act).hardware := by
  cases hact : act ⟨s, []⟩ with
  | ok a w => rw [runStep_ok hact, World.after_ok hact]
  | error e w => rw [runStep_error hact, World.after_error hact]

/-- There is no stop. -/
def Never (_ : Stop) (_ : World σ) : Prop := False

namespace Ends

variable {pre : World σ → Prop} {act : Action σ α} {post : α → World σ → Prop}
  {stop : Stop → World σ → Prop}

theorem post_of_ok (h : Ends pre act post stop) {a : α} {w w' : World σ} (hw : pre w)
    (hact : act w = .ok a w') : post a w' := by
  have hend := h w hw
  rwa [hact] at hend

theorem stop_of_error (h : Ends pre act post stop) {e : Stop} {w w' : World σ} (hw : pre w)
    (hact : act w = .error e w') : stop e w' := by
  have hend := h w hw
  rwa [hact] at hend

theorem mono {pre' : World σ → Prop} {post' : α → World σ → Prop} {stop' : Stop → World σ → Prop}
    (h : Ends pre act post stop) (hpre : ∀ w, pre' w → pre w)
    (hpost : ∀ a w, post a w → post' a w) (hstop : ∀ e w, stop e w → stop' e w) :
    Ends pre' act post' stop' := by
  intro w hw
  have hend := h w (hpre w hw)
  split <;> rename_i hact <;> rw [hact] at hend
  · exact hpost _ _ hend
  · exact hstop _ _ hend

theorem of_imp {pre' : World σ → Prop} (hpre : ∀ w, pre' w → pre w) (h : Ends pre act post stop) :
    Ends pre' act post stop :=
  fun w hw => h w (hpre w hw)

/-- What is known of the world at the start and does not depend on it may be assumed. -/
theorem assume {p : Prop} (h : p → Ends pre act post stop) :
    Ends (fun w => p ∧ pre w) act post stop :=
  fun w hw => h hw.1 w hw.2

theorem exists_ok (h : Ends pre act post Never) {w : World σ} (hw : pre w) :
    ∃ a w', act w = .ok a w' ∧ post a w' := by
  cases hact : act w with
  | ok a w' => exact ⟨a, w', rfl, h.post_of_ok hw hact⟩
  | error e w' => exact (h.stop_of_error hw hact).elim

/-- An action that never stops may be followed by any way to stop. -/
theorem of_never (h : Ends pre act post Never) : Ends pre act post stop :=
  h.mono (fun _ hw => hw) (fun _ _ hw => hw) (fun _ _ hw => hw.elim)

theorem bind {f : α → Action σ β} {M : α → World σ → Prop} {post : β → World σ → Prop}
    (h : Ends pre act M stop) (hf : ∀ a, Ends (M a) (f a) post stop) :
    Ends pre (act >>= f) post stop := by
  intro w hw
  cases hact : act w with
  | ok a v =>
      rw [bind_ok hact]
      exact hf a v (h.post_of_ok hw hact)
  | error e v =>
      rw [bind_error hact]
      exact h.stop_of_error hw hact

theorem pure {a : α} (h : ∀ w, pre w → post a w) : Ends pre (pure a) post stop := h

theorem refuse {e : Refusal} (h : ∀ w, pre w → stop (.refused e) w) :
    Ends pre (refuse e) post stop := h

theorem fault {f : Fault} (h : ∀ w, pre w → stop (.fault f) w) : Ends pre (fault f) post stop := h

theorem note {e : Event} {post : Unit → World σ → Prop}
    (h : ∀ w, pre w → post () (w.moved w.hardware [e])) : Ends pre (note e) post stop := h

theorem log {r : LogRecord} {post : Unit → World σ → Prop}
    (h : ∀ w, pre w → post () (w.moved w.hardware [.log r])) : Ends pre (log r) post stop := h

theorem setHardware {f : σ → σ} {post : Unit → World σ → Prop}
    (h : ∀ w, pre w → post () (w.moved (f w.hardware) [])) :
    Ends pre (setHardware f) post stop := by
  intro w hw
  rw [setHardware_moved]
  exact h w hw

/-- What comes after a look at the hardware may rely on what was seen. -/
theorem hardware_bind {f : σ → Action σ α}
    (h : ∀ s, Ends (fun w => pre w ∧ w.hardware = s) (f s) post stop) :
    Ends pre (hardware >>= f) post stop :=
  fun w hw => h w.hardware w ⟨hw, rfl⟩

theorem ofExcept {x : Except Fault α} (hok : ∀ a, x = .ok a → ∀ w, pre w → post a w)
    (herror : ∀ f, x = .error f → ∀ w, pre w → stop (.fault f) w) :
    Ends pre (Action.ofExcept x) post stop := by
  cases x with
  | ok a => exact hok a rfl
  | error f => exact herror f rfl

/-- Refusals become results, and faults remain. -/
theorem attempt {post : Except Refusal α → World σ → Prop} {stop' : Stop → World σ → Prop}
    (h : Ends pre act (fun a => post (.ok a)) stop)
    (hrefused : ∀ e w, stop (.refused e) w → post (.error e) w)
    (hfault : ∀ f w, stop (.fault f) w → stop' (.fault f) w) :
    Ends pre (attempt act) post stop' := by
  intro w hw
  have hend := h w hw
  unfold BpmpMailbox.attempt
  cases hact : act w with
  | ok a v =>
      rw [hact] at hend
      exact hend
  | error e v =>
      rw [hact] at hend
      cases e with
      | refused e => exact hrefused e v hend
      | fault f => exact hfault f v hend

theorem ite {c : Prop} [Decidable c] {act' : Action σ α} (ht : c → Ends pre act post stop)
    (hf : ¬ c → Ends pre act' post stop) : Ends pre (if c then act else act') post stop := by
  split
  · exact ht ‹_›
  · exact hf ‹_›

/-- One thing after the other, when what holds depends on the things still to come. -/
theorem forM {f : α → Action σ PUnit} {I : List α → World σ → Prop}
    (h : ∀ a as, Ends (I (a :: as)) (f a) (fun _ => I as) stop) (as : List α) :
    Ends (I as) (as.forM f) (fun _ => I []) stop := by
  induction as with
  | nil => exact fun _ hw => hw
  | cons a as ih => exact (h a as).bind fun _ => ih

end Ends

namespace Maintains

variable {P : World σ → Prop} {act act' : Action σ α}

theorem pure {a : α} : Maintains P (Pure.pure a : Action σ α) := Ends.pure fun _ hw => hw

theorem refuse {e : Refusal} : Maintains P (BpmpMailbox.refuse e : Action σ α) :=
  Ends.refuse fun _ hw => hw

theorem fault {f : Fault} : Maintains P (BpmpMailbox.fault f : Action σ α) :=
  Ends.fault fun _ hw => hw

theorem ofExcept {x : Except Fault α} : Maintains P (Action.ofExcept x) :=
  Ends.ofExcept (fun _ _ _ hw => hw) fun _ _ _ hw => hw

theorem hardware : Maintains P (BpmpMailbox.hardware : Action σ σ) := fun _ hw => hw

theorem bind {f : α → Action σ β} (h : Maintains P act) (hf : ∀ a, Maintains P (f a)) :
    Maintains P (act >>= f) :=
  Ends.bind h hf

theorem attempt (h : Maintains P act) : Maintains P (BpmpMailbox.attempt act) :=
  Ends.attempt h (fun _ _ hw => hw) fun _ _ hw => hw

theorem ite {c : Prop} [Decidable c] (h : Maintains P act) (h' : Maintains P act') :
    Maintains P (if c then act else act') :=
  Ends.ite (fun _ => h) fun _ => h'

end Maintains

/-- Every read of a bus maintains a property. -/
structure Bus.ReadsMaintain (b : Bus σ) (P : World σ → Prop) : Prop where
  read : ∀ addr, BpmpMailbox.Maintains P (b.read addr)
  readBytes : ∀ addr count, BpmpMailbox.Maintains P (b.readBytes addr count)

/-- Every access to a bus maintains a property. -/
structure Bus.Maintains (b : Bus σ) (P : World σ → Prop) : Prop extends b.ReadsMaintain P where
  write : ∀ addr value, BpmpMailbox.Maintains P (b.write addr value)
  writeBytes : ∀ addr data, BpmpMailbox.Maintains P (b.writeBytes addr data)

end

end BpmpMailbox
