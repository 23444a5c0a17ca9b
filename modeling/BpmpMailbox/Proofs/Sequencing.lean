import BpmpMailbox.Hardware.Action

/-!
# Sequences of actions

How the effect of a longer action is put together from the effects of its
parts. An action only ever appends to the journal, so what it did to a world
is told by two things: the hardware it left and the events it added. `moved`
is the world after both, and every effect in this development has the form
`act w = .ok a (w.moved s events)`, or the same with a stop. Two such effects
in a row compose into one by `moved_moved`.

`bind_ok` and `bind_error` run the first part of a sequence when its effect is
known. `exists_of_bind_ok` goes the other way: a sequence that came to its end
did so through an intermediate result, which is how a known outcome of a long
action is taken apart again.

## Main definitions

* `World.moved`: A world with other hardware and more events.

## Theorems

* `bind_ok`, `bind_error`: Run the first part of a sequence.
* `bind_pure_ok`: Run an action whose result is replaced.
* `exists_of_bind_ok`: A finished sequence had a finished first part.
* `note_moved`, `log_moved`, `setHardware_moved`: The primitives in terms of `moved`.
* `exists_of_attempt_ok`: Surviving a refusal.
-/

namespace BpmpMailbox

section

variable {σ α β : Type}

/-- The world with its hardware replaced and some events appended. -/
def World.moved (w : World σ) (s : σ) (events : List Event) : World σ :=
  ⟨s, w.journal ++ events⟩

@[simp] theorem World.moved_hardware (w : World σ) (s : σ) (events : List Event) :
    (w.moved s events).hardware = s := rfl

@[simp] theorem World.moved_moved (w : World σ) (s t : σ) (before after : List Event) :
    (w.moved s before).moved t after = w.moved t (before ++ after) := by
  simp only [World.moved, List.append_assoc]

theorem bind_ok {act : Action σ α} {f : α → Action σ β} {a : α} {w w' : World σ}
    (h : act w = .ok a w') : (act >>= f) w = f a w' := by
  -- The bind of actions is that of the state monad, and reduces once the first part is known.
  change EStateM.bind act f w = f a w'
  simp only [EStateM.bind, h]

theorem bind_error {act : Action σ α} {f : α → Action σ β} {e : Stop} {w w' : World σ}
    (h : act w = .error e w') : (act >>= f) w = .error e w' := by
  change EStateM.bind act f w = .error e w'
  simp only [EStateM.bind, h]

/-- What comes after the first part sees nothing of how the first part came about. -/
theorem bind_congr_run {act act' : Action σ α} {f : α → Action σ β} {w w' : World σ}
    (h : act w = act' w') : (act >>= f) w = (act' >>= f) w' := by
  change EStateM.bind act f w = EStateM.bind act' f w'
  simp only [EStateM.bind, h]

@[simp] theorem pure_run (a : α) (w : World σ) : (pure a : Action σ α) w = .ok a w := rfl

theorem bind_pure_ok {act : Action σ α} {a : α} {b : β} {w w' : World σ} (h : act w = .ok a w') :
    (act >>= fun _ => pure b) w = .ok b w' := by
  rw [bind_ok h, pure_run]

/-- A sequence that came to its end passed through an end of its first part. -/
theorem exists_of_bind_ok {act : Action σ α} {f : α → Action σ β} {b : β} {w w' : World σ}
    (h : (act >>= f) w = .ok b w') : ∃ a v, act w = .ok a v ∧ f a v = .ok b w' := by
  cases hact : act w with
  | ok a v => exact ⟨a, v, rfl, by rwa [bind_ok hact] at h⟩
  -- A first part that stopped would have stopped the whole sequence.
  | error e v =>
      rw [bind_error hact] at h
      exact absurd h (by simp only [reduceCtorEq, not_false_eq_true])

theorem note_moved (e : Event) (w : World σ) : note e w = .ok () (w.moved w.hardware [e]) := rfl

theorem log_moved (r : LogRecord) (w : World σ) :
    log r w = .ok () (w.moved w.hardware [.log r]) := rfl

theorem setHardware_moved (f : σ → σ) (w : World σ) :
    setHardware f w = .ok () (w.moved (f w.hardware) []) := by
  simp only [setHardware_run, World.moved, List.append_nil]

theorem ofExcept_ok {x : Except Fault α} {a : α} (h : x = .ok a) (w : World σ) :
    (Action.ofExcept x : Action σ α) w = .ok a w := by
  rw [h]
  rfl

theorem ofExcept_error {x : Except Fault α} {f : Fault} (h : x = .error f) (w : World σ) :
    (Action.ofExcept x : Action σ α) w = .error (.fault f) w := by
  rw [h]
  rfl

theorem attempt_ok {act : Action σ α} {a : α} {w w' : World σ} (h : act w = .ok a w') :
    attempt act w = .ok (.ok a) w' := by
  unfold attempt
  rw [h]

theorem attempt_refused {act : Action σ α} {e : Refusal} {w w' : World σ}
    (h : act w = .error (.refused e) w') : attempt act w = .ok (.error e) w' := by
  unfold attempt
  rw [h]

/-- An action that is attempted and comes to a result came to an end itself,
    or was refused. -/
theorem exists_of_attempt_ok {act : Action σ α} {r : Except Refusal α} {w w' : World σ}
    (h : attempt act w = .ok r w') :
    (∃ a, r = .ok a ∧ act w = .ok a w') ∨ ∃ e, r = .error e ∧ act w = .error (.refused e) w' := by
  unfold attempt at h
  cases hact : act w with
  | ok a v =>
      rw [hact] at h
      injection h with hr hw
      exact Or.inl ⟨a, hr.symm, by rw [hw]⟩
  | error e v =>
      rw [hact] at h
      cases e with
      | refused e =>
          injection h with hr hw
          exact Or.inr ⟨e, hr.symm, by rw [hw]⟩
      -- A fault passes through the attempt, so there is no result in this case.
      | fault f => exact absurd h (by simp only [reduceCtorEq, not_false_eq_true])

end

end BpmpMailbox
