import BpmpMailbox.Proofs.Refinement
import BpmpMailbox.Proofs.Retry
import BpmpMailbox.Script.Session

/-!
# Handlers and their doorbells

Handlers are installed core by core, and the first core that does not accept
one ends the installation with the cores before it served. So the next
installation may find any part of the cores taken, and at each core two things
may stand in its way: the chip was told to refuse it, or there is a handler
already. `Soc.Obstacle` is the one that is reported.

Nothing takes a handler away. Installing is the only operation that touches the
table, and it fills places that were empty, so whatever came before, a doorbell
calls the handler that was installed for its core first.

A request that the firmware posts raises a doorbell as its last step. What the
handler finds when it is called is therefore the chip with the message in place
and the channel handed over, whatever the handler then does with it.

## Main definitions

* `Soc.Obstacle`: Why a core does not accept a handler.
* `Soc.installed`: The chip with a handler installed for the first cores.
* `Interrupts.Turn`, `Interrupts.Reached`: What may happen, and the chips it leads to.
* `Interrupts.Delivers`: What the next installation, doorbell or request does.

## Theorems

* `Mailbox.installHandler_ends`: An installation serves the cores before the first obstacle.
* `Soc.fire_bound`: A doorbell calls the handler of its core.
* `Soc.handedOver_posted`: What a handler finds when a request is posted.
* `Interrupts.Reached.later`: No handler is taken away.
* `Interrupts.reached_delivers`: Every chip reached delivers.
-/

namespace BpmpMailbox

open Script (Reply runStep)

namespace Soc

/-- A handler for the core is not accepted, and this is the answer. -/
inductive Obstacle (s : Soc) (core : Nat) : DoorbellError → Prop where
  | refused {error : DoorbellError} (h : s.faults.refusedCore = some (core, error)) :
    Obstacle s core error
  | occupied (hnone : ∀ error, s.faults.refusedCore ≠ some (core, error)) {b : Binding}
    (h : s.binding? core = some b) : Obstacle s core (.occupied core)

/-- Where there is a handler already, none is accepted. -/
theorem exists_obstacle_of_binding {s : Soc} {core : Nat} {b : Binding}
    (h : s.binding? core = some b) : ∃ error, s.Obstacle core error := by
  by_cases hrefused : ∃ error, s.faults.refusedCore = some (core, error)
  · exact hrefused.imp fun _ => .refused
  · exact ⟨_, .occupied (fun error herror => hrefused ⟨error, herror⟩) h⟩

/-- The chip with a handler installed for the cores below `count`. -/
def installed (s : Soc) (handler : Handler) (count : Nat) : Soc :=
  { s with
    handlers := Vector.ofFn fun core =>
      if core.val < count then some ⟨handler, inboundBase + core.val⟩ else s.handlers[core] }

theorem binding?_of_le (s : Soc) {core : Nat} (h : coreCount ≤ core) : s.binding? core = none := by
  rw [binding?, Vector.getElem?_eq_none h, Option.join_none]

theorem binding?_eq (s : Soc) {core : Nat} (h : core < coreCount) :
    s.binding? core = s.handlers[core] := by
  rw [binding?, Vector.getElem?_eq_getElem h, Option.join_some]

theorem binding?_installed (s : Soc) (handler : Handler) {count : Nat} (hcount : count ≤ coreCount)
    (core : Nat) :
    (s.installed handler count).binding? core =
      if core < count then some ⟨handler, inboundBase + core⟩ else s.binding? core := by
  by_cases hcore : core < coreCount
  · rw [binding?_eq _ hcore, binding?_eq _ hcore]
    exact Vector.getElem_ofFn hcore
  · rw [binding?_of_le _ (Nat.not_lt.mp hcore), binding?_of_le _ (Nat.not_lt.mp hcore),
      if_neg (by omega)]

theorem OnlyRecords.installed {s : Soc} (h : s.OnlyRecords) {handler : Handler}
    (hrecord : handler.reaction = .record) {count : Nat} (hcount : count ≤ coreCount) :
    (s.installed handler count).OnlyRecords := by
  intro core b hb
  rw [s.binding?_installed handler hcount] at hb
  split at hb
  · cases hb
    exact hrecord
  · exact h core b hb

theorem installed_zero (s : Soc) (handler : Handler) : s.installed handler 0 = s := by
  have hhandlers : (s.installed handler 0).handlers = s.handlers :=
    Vector.ext fun _ hcore => Vector.getElem_ofFn hcore
  change { s with handlers := (s.installed handler 0).handlers } = s
  rw [hhandlers]

/-- The next core takes the handler. -/
theorem installed_succ (s : Soc) (handler : Handler) (core : Nat) :
    { s.installed handler core with
      handlers := (s.installed handler core).handlers.setIfInBounds core
        (some ⟨handler, inboundBase + core⟩) } = s.installed handler (core + 1) := by
  have hhandlers : (s.installed handler core).handlers.setIfInBounds core
      (some ⟨handler, inboundBase + core⟩) = (s.installed handler (core + 1)).handlers := by
    refine Vector.ext fun other hother => ?_
    rw [Vector.getElem_setIfInBounds hother, installed, installed, Vector.getElem_ofFn,
      Vector.getElem_ofFn]
    by_cases heq : core = other
    · subst heq
      rw [if_pos rfl, if_pos (Nat.lt_succ_self core)]
    · -- The cores before this one have their handler already, and the others wait.
      rw [if_neg heq]
      exact if_congr (by simp only; omega) rfl rfl
  rw [hhandlers]
  rfl

/-- Cores that were not reached are as they were. -/
theorem obstacle_installed (s : Soc) (handler : Handler) {count core : Nat}
    (hcount : count ≤ coreCount) (hle : count ≤ core) {error : DoorbellError} :
    (s.installed handler count).Obstacle core error ↔ s.Obstacle core error := by
  have hbinding := s.binding?_installed handler hcount core
  rw [if_neg (Nat.not_lt.mpr hle)] at hbinding
  constructor
  · rintro (h | ⟨hnone, h⟩)
    · exact .refused h
    · exact .occupied hnone (hbinding ▸ h)
  · rintro (h | ⟨hnone, h⟩)
    · exact .refused h
    · exact .occupied hnone (hbinding.trans h)

/-- Unless the core is refused, the answer depends on whether it has a handler. -/
theorem vacant_cases (s : Soc) {core : Nat} (hcore : core < coreCount)
    (hnone : ∀ error, s.faults.refusedCore ≠ some (core, error)) :
    (∃ error, s.Obstacle core error ∧ registration.vacant s core = .error error) ∨
      (∀ error, ¬ s.Obstacle core error) ∧ registration.vacant s core = .ok () := by
  have hslot : s.handlers[core]? = some (s.binding? core) := by
    rw [binding?_eq s hcore, Vector.getElem?_eq_getElem hcore]
  rw [registration.vacant, hslot]
  cases hbinding : s.binding? core with
  | some b => exact Or.inl ⟨_, .occupied hnone hbinding, rfl⟩
  | none =>
      refine Or.inr ⟨fun error h => ?_, rfl⟩
      rcases h with h | ⟨-, h⟩
      · exact hnone _ h
      · rw [hbinding] at h
        cases h

/-- The answer to a handler is the obstacle, if there is one. -/
theorem registration_cases (s : Soc) {core : Nat} (hcore : core < coreCount) :
    (∃ error, s.Obstacle core error ∧ s.registration core = .error error) ∨
      (∀ error, ¬ s.Obstacle core error) ∧ s.registration core = .ok () := by
  unfold registration
  cases hrefused : s.faults.refusedCore with
  | none => exact s.vacant_cases hcore fun error h => by rw [hrefused] at h; cases h
  | some refusal =>
      obtain ⟨refused, error⟩ := refusal
      by_cases heq : refused = core
      · subst heq
        exact Or.inl ⟨error, .refused hrefused, if_pos rfl⟩
      · simp only [if_neg heq]
        exact s.vacant_cases hcore fun error' h => by rw [hrefused] at h; cases h; exact heq rfl

/-- How far an installation gets, and how it ends. -/
inductive Installs (s : Soc) : Nat → Except Stop Unit → Prop where
  | stopped {core : Nat} {error : DoorbellError} (hcore : core < coreCount)
    (hbelow : ∀ other < core, ∀ e, ¬ s.Obstacle other e) (h : s.Obstacle core error) :
    Installs s core (.error (.refused (.handlerNotInstalled core error)))
  | complete (h : ∀ core < coreCount, ∀ e, ¬ s.Obstacle core e) : Installs s coreCount (.ok ())

namespace Installs

variable {s : Soc} {count : Nat} {result : Except Stop Unit}

theorem count_le (h : s.Installs count result) : count ≤ coreCount := by
  cases h with
  | stopped hcore => exact Nat.le_of_lt hcore
  | complete => exact Nat.le_refl _

theorem clear (h : s.Installs count result) : ∀ core < count, ∀ e, ¬ s.Obstacle core e := by
  cases h with
  | stopped _ hbelow => exact hbelow
  | complete hclear => exact hclear

end Installs

end Soc

namespace Mailbox

variable {s : Soc} (mb : Mailbox) (handler : Handler)

/-- One core of an installation, when the cores before it have been served. -/
theorem register_ends {core : Nat} (hcore : core < coreCount) :
    Ends (fun w => w.hardware = s.installed handler core)
      (Soc.platform.register core ⟨handler, inboundBase + core⟩)
      (fun answer w =>
        (∃ error, answer = .error error ∧ s.Obstacle core error ∧
          w.hardware = s.installed handler core) ∨
        answer = .ok () ∧ (∀ error, ¬ s.Obstacle core error) ∧
          w.hardware = s.installed handler (core + 1)) Never := by
  intro w hw
  simp only [Soc.platform]
  rw [bind_ok (note_moved _ w), Soc.register, bind_ok (hardware_run _), World.moved_hardware, hw]
  rcases (s.installed handler core).registration_cases hcore with
    ⟨error, hobstacle, hanswer⟩ | ⟨hclear, hanswer⟩ <;> simp only [hanswer]
  · refine Or.inl ⟨error, rfl, ?_, rfl⟩
    exact (s.obstacle_installed handler (Nat.le_of_lt hcore) (Nat.le_refl _)).mp hobstacle
  · rw [bind_ok (setHardware_moved _ _), pure_run]
    refine Or.inr ⟨rfl, fun error h => ?_, s.installed_succ handler core⟩
    exact hclear error ((s.obstacle_installed handler (Nat.le_of_lt hcore) (Nat.le_refl _)).mpr h)

/-- The cores from one on, when those before it have been served. -/
theorem installCores_ends : ∀ count core : Nat, core + count = coreCount →
    (∀ other < core, ∀ e, ¬ s.Obstacle other e) →
    Ends (fun w => w.hardware = s.installed handler core)
      ((mb.notifier Soc.platform).installCores handler (List.range' core count))
      (fun u w => s.Installs coreCount (.ok u) ∧ w.hardware = s.installed handler coreCount)
      (fun stop w => ∃ last, s.Installs last (.error stop) ∧
        w.hardware = s.installed handler last) := by
  intro count
  induction count with
  | zero =>
      intro core hcount hbelow w hw
      have hlast : core = coreCount := hcount
      subst hlast
      exact ⟨.complete hbelow, hw⟩
  | succ count ih =>
      intro core hcount hbelow
      have hcore : core < coreCount := by omega
      rw [List.range'_succ]
      unfold Notifier.installCores
      intro w hw
      rw [bind_ok (ofExcept_ok (Firmware.inboundIndex_ok hcore) w)]
      refine Ends.bind (register_ends handler hcore).of_never (fun answer => ?_) w hw
      cases answer with
      | error error =>
          rintro w (⟨_, heq, hobstacle, hw⟩ | ⟨heq, -⟩)
          · cases heq
            exact ⟨core, .stopped hcore hbelow hobstacle, hw⟩
          · cases heq
      | ok u =>
          rintro w (⟨_, heq, -⟩ | ⟨-, hclear, hw⟩)
          · cases heq
          · refine ih (core + 1) (by omega) (fun other hother => ?_) w hw
            -- The core just served is clear too.
            rcases Nat.lt_succ_iff_lt_or_eq.mp hother with hlt | rfl
            · exact hbelow other hlt
            · exact hclear

/-- An installation serves the cores before the first obstacle and no others. -/
theorem installHandler_ends (s : Soc) :
    Ends (fun w => w.hardware = s) (mb.installHandler Soc.platform handler)
      (fun u w => s.Installs coreCount (.ok u) ∧ w.hardware = s.installed handler coreCount)
      (fun stop w => ∃ last, s.Installs last (.error stop) ∧
        w.hardware = s.installed handler last) := by
  intro w hw
  rw [← s.installed_zero handler] at hw
  have hcores := installCores_ends (s := s) mb handler coreCount 0 rfl fun _ h => by omega
  rw [← List.range_eq_range'] at hcores
  exact Ends.bind hcores (fun _ => Ends.log fun _ hw => hw) w hw

end Mailbox

namespace Soc

variable (mailbox? : Nat → Option Mailbox)

/-- A doorbell calls the handler of its core, once, and goes no further unless
    the handler does. -/
theorem fire_bound {core : Nat} {b : Binding} {w : World Soc}
    (hb : w.hardware.binding? core = some b) (hnext : b.handler.next? b.channel = none) :
    fire mailbox? core w =
      (b.handler.react mailbox? b.channel >>= fun _ => (pure true : Action Soc Bool)) w := by
  unfold fire fireNested
  rw [bind_ok (hardware_run w), hb]
  simp only [hnext]

/-- What a posted request has brought about when its doorbell is raised: the
    channel is handed over, the message is in place, and the handlers are
    those of before. -/
structure HandedOver (s t : Soc) (core : Nat) (code : Code) (flags : MessageFlags)
    (data : List Byte) : Prop where
  state : t.state (inboundBase + core) = .ok .signalled
  message : ∃ before, (∀ j, Firmware.message (inboundBase + core) ⟨s, j⟩ = .ok before ⟨s, j⟩) ∧
    ∀ j, Firmware.message (inboundBase + core) ⟨t, j⟩ =
      .ok ⟨code, flags, data ++ before.data.drop data.length⟩ ⟨t, j⟩
  handlers : t.handlers = s.handlers

theorem handedOver_posted {l : Layout} {s : Soc} (hs : s.PlacedAt l) {core : Nat}
    (hlt : inboundBase + core < channelCount) (code : Code) (flags : MessageFlags)
    {data : List Byte} (hlen : data.length ≤ payloadSize) :
    s.HandedOver (s.posted (inboundBase + core) (l.place ⟨inboundBase + core, hlt⟩) code flags data)
      core code flags data := by
  have hrecord := records_posted l s ⟨inboundBase + core, hlt⟩ code flags hlen
  refine ⟨?_, ⟨_, Firmware.message_records hs ⟨inboundBase + core, hlt⟩, fun j => ?_⟩, rfl⟩
  · exact (state_eq_ok_iff l _ ⟨inboundBase + core, hlt⟩).mpr (by rw [hrecord])
  · -- Posting moves no area, so the firmware reads the message where it wrote it.
    have hplaced : (s.posted (inboundBase + core) (l.place ⟨inboundBase + core, hlt⟩) code flags
        data).PlacedAt l := hs
    have hread := Firmware.message_records hplaced ⟨inboundBase + core, hlt⟩ j
    rw [hrecord, Record.message, Memory.bytes_store_zero _ hlen] at hread
    exact hread

end Soc

namespace Interrupts

/-- What may happen around the doorbells. -/
inductive Turn where
  | connect (config : Configuration)
  | install (mb : Mailbox) (handler : Handler)
  | inject (faults : Injection)
  | fire (core : Nat)
  | post (core : Nat) (code : Code) (flags : MessageFlags) (data : List Byte)

variable (mailbox? : Nat → Option Mailbox)

/-- Carry out a turn; `mailbox?` knows the mailboxes that handlers may refer to. -/
def Turn.run : Turn → Action Soc Reply
  | .connect config => do
    let mb ← Mailbox.connect Soc.platform config
    pure (.config mb.config)
  | .install mb handler => do
    mb.installHandler Soc.platform handler
    pure .done
  | .inject faults => (Script.ChipStep.inject faults).run mailbox?
  | .fire core => (Script.ChipStep.fire core).run mailbox?
  | .post core code flags data => (Script.ChipStep.post core code flags data).run mailbox?

/-- Handlers only take note of their calls, and requests are for a core that
    exists and of a size that fits. -/
def Turn.Fair : Turn → Prop
  | .connect config => config.areaWindow < addressLimit / 2
  | .install _ handler => handler.reaction = .record
  | .post core _ _ data => core < coreCount ∧ data.length ≤ payloadSize
  | _ => True

/-- The chips that turns lead to, one after the other and whatever came of them. -/
inductive Reached (start : Soc) : Soc → Prop where
  | nil : Reached start start
  | snoc {s : Soc} (turn : Turn) (hfair : turn.Fair) (j : List Event) (past : Reached start s) :
    Reached start (World.after ⟨s, j⟩ (turn.run mailbox?)).hardware

/-- What the chip does with the next installation, doorbell or request. -/
structure Delivers (s : Soc) : Prop where
  /-- Every handler is bound to its core's inbound channel. -/
  bound : ∀ core b, s.binding? core = some b → core < coreCount ∧ b.channel = inboundBase + core
  /-- An installation serves the cores before the first obstacle. -/
  install : ∀ (mb : Mailbox) handler, ∃ count result events,
    s.Installs count result ∧
      runStep s (mb.installHandler Soc.platform handler) =
        ⟨result, events, s, s.installed handler count⟩
  /-- A doorbell calls the handler of its core, once. -/
  fire : ∀ core b, s.binding? core = some b →
    runStep s ((Script.ChipStep.fire core).run mailbox?) =
      ⟨.ok (.flag true), [.handled b.handler (inboundBase + core) .recorded], s, s⟩
  /-- A doorbell of a core without a handler calls nothing. -/
  vacant : ∀ core, s.binding? core = none →
    runStep s ((Script.ChipStep.fire core).run mailbox?) =
      ⟨.ok (.flag false), [.log (.spuriousDoorbell core)], s, s⟩
  /-- A posted request is in place when the doorbell is raised, and the handler
      is called on the chip as it is then. -/
  post : ∀ core code flags data, core < coreCount → data.length ≤ payloadSize →
    ∃ t, s.HandedOver t core code flags data ∧
      (∀ b, s.binding? core = some b →
        (∀ j, Firmware.post mailbox? core code flags data ⟨s, j⟩ =
          (b.handler.react mailbox? (inboundBase + core) >>=
            fun _ => (pure true : Action Soc Bool)) ⟨t, j⟩) ∧
        runStep s ((Script.ChipStep.post core code flags data).run mailbox?) =
          ⟨.ok (.flag true), [.handled b.handler (inboundBase + core) .recorded], s, t⟩) ∧
      (s.binding? core = none →
        runStep s ((Script.ChipStep.post core code flags data).run mailbox?) =
          ⟨.ok (.flag false), [.log (.spuriousDoorbell core)], s, t⟩)

/-- Every handler takes note only, and is bound to its core's inbound channel;
    the areas are where the firmware has put them. -/
structure Wired (s : Soc) : Prop where
  addresses : s.addresses = Soc.bootAddresses
  bound : ∀ core b, s.binding? core = some b → b.channel = inboundBase + core
  records : s.OnlyRecords

namespace Wired

variable {s : Soc}

theorem of_eq (h : Wired s) {t : Soc} (haddresses : t.addresses = s.addresses)
    (hhandlers : t.handlers = s.handlers) : Wired t := by
  refine ⟨haddresses.trans h.addresses, fun core b hb => ?_, h.records.of_handlers_eq hhandlers⟩
  rw [Soc.binding?, hhandlers] at hb
  exact h.bound core b hb

/-- The chip on which the first cores have been given another handler. -/
theorem installed (h : Wired s) {handler : Handler} (hrecord : handler.reaction = .record)
    {count : Nat} (hcount : count ≤ coreCount) : Wired (s.installed handler count) := by
  refine ⟨h.addresses, fun core b hb => ?_, h.records.installed hrecord hcount⟩
  rw [s.binding?_installed handler hcount] at hb
  split at hb
  · cases hb
    rfl
  · exact h.bound core b hb

/-- A handler that only takes note raises no further doorbell. -/
theorem next?_eq_none (h : Wired s) {core : Nat} {b : Binding} (hb : s.binding? core = some b) :
    b.handler.next? b.channel = none := by
  rw [Handler.next?, h.records core b hb]

theorem install_run (mb : Mailbox) (handler : Handler) :
    ∃ count result events, s.Installs count result ∧
      runStep s (mb.installHandler Soc.platform handler) =
        ⟨result, events, s, s.installed handler count⟩ := by
  have hends := mb.installHandler_ends handler s ⟨s, []⟩ rfl
  cases hrun : mb.installHandler Soc.platform handler ⟨s, []⟩ with
  | ok u w =>
      rw [hrun] at hends
      exact ⟨_, _, _, hends.1, by rw [runStep_ok hrun, hends.2]⟩
  | error stop w =>
      rw [hrun] at hends
      obtain ⟨last, hinstalls, hw⟩ := hends
      exact ⟨_, _, _, hinstalls, by rw [runStep_error hrun, hw]⟩

theorem doorbell_bound (h : Wired s) {core : Nat} {b : Binding} (hb : s.binding? core = some b) :
    s.isListening core = true ∧
      s.fireEvents core = [.handled b.handler (inboundBase + core) .recorded] := by
  rw [Soc.isListening, Soc.fireEvents, hb, ← h.bound core b hb]
  exact ⟨rfl, rfl⟩

theorem doorbell_vacant {core : Nat} (hb : s.binding? core = none) :
    s.isListening core = false ∧ s.fireEvents core = [.log (.spuriousDoorbell core)] := by
  rw [Soc.isListening, Soc.fireEvents, hb]
  exact ⟨rfl, rfl⟩

theorem fire_run (h : Wired s) (core : Nat) :
    runStep s ((Script.ChipStep.fire core).run mailbox?) =
      ⟨.ok (.flag (s.isListening core)), s.fireEvents core, s, s⟩ := by
  have hrun : (Script.ChipStep.fire core).run mailbox? ⟨s, []⟩ = _ :=
    bind_ok (Soc.fire_run mailbox? core ⟨s, []⟩ h.records)
  exact runStep_ok hrun

theorem post_run (h : Wired s) {core : Nat} (hcore : core < coreCount) (code : Code)
    (flags : MessageFlags) {data : List Byte} (hlen : data.length ≤ payloadSize) :
    ∃ t, s.HandedOver t core code flags data ∧
      (∀ b, s.binding? core = some b → ∀ j,
        Firmware.post mailbox? core code flags data ⟨s, j⟩ =
          (b.handler.react mailbox? (inboundBase + core) >>=
            fun _ => (pure true : Action Soc Bool)) ⟨t, j⟩) ∧
      runStep s ((Script.ChipStep.post core code flags data).run mailbox?) =
        ⟨.ok (.flag (s.isListening core)), s.fireEvents core, s, t⟩ := by
  have hplaced := Soc.placedAt_boot h.addresses
  have hlt := Firmware.inboundIndex_lt hcore
  have hinside := Layout.boot.inside ⟨inboundBase + core, hlt⟩
  have hplace : s.areaOffset (inboundBase + core) = _ := hplaced ⟨inboundBase + core, hlt⟩
  refine ⟨_, Soc.handedOver_posted hplaced hlt code flags hlen,
    fun b hb j => ?_, ?_⟩
  · have hfire := Firmware.post_eq_fire (w := ⟨s, j⟩) mailbox? hcore hinside hplace code flags
      hlen
    rw [hfire, Soc.fire_bound mailbox? hb (h.next?_eq_none hb), h.bound core b hb]
    simp only [World.moved, List.append_nil]
  · have hpost := Firmware.post_run (w := ⟨s, []⟩) mailbox? hcore hinside hplace code flags hlen
      h.records
    have hrun : (Script.ChipStep.post core code flags data).run mailbox? ⟨s, []⟩ = _ :=
      bind_ok hpost
    exact runStep_ok hrun

/-- Such a chip does what is expected of it with the next turn. -/
theorem delivers (h : Wired s) : Delivers mailbox? s where
  bound core b hb := by
    refine ⟨Nat.lt_of_not_le fun hle => ?_, h.bound core b hb⟩
    rw [s.binding?_of_le hle] at hb
    cases hb
  install mb handler := install_run mb handler
  fire core b hb := by
    rw [h.fire_run, (h.doorbell_bound hb).1, (h.doorbell_bound hb).2]
  vacant core hb := by
    rw [h.fire_run, (doorbell_vacant hb).1, (doorbell_vacant hb).2]
  post core code flags data hcore hlen := by
    obtain ⟨t, hposted, hcall, hreport⟩ := h.post_run mailbox? hcore code flags hlen
    refine ⟨t, hposted, fun b hb => ⟨hcall b hb, ?_⟩, fun hb => ?_⟩
    · rw [hreport, (h.doorbell_bound hb).1, (h.doorbell_bound hb).2]
    · rw [hreport, (doorbell_vacant hb).1, (doorbell_vacant hb).2]

end Wired

/-- A later chip: it is wired like the first, and has at least its handlers. -/
structure Later (s t : Soc) : Prop where
  wired : Wired t
  kept : ∀ core b, s.binding? core = some b → t.binding? core = some b

namespace Later

variable {s t : Soc}

theorem of_eq (h : Later s t) {u : Soc} (haddresses : u.addresses = t.addresses)
    (hhandlers : u.handlers = t.handlers) : Later s u := by
  refine ⟨h.wired.of_eq haddresses hhandlers, fun core b hb => ?_⟩
  rw [Soc.binding?, hhandlers]
  exact h.kept core b hb

/-- An installation replaces no handler: where there was one, it has stopped. -/
theorem installed (h : Later s t) {handler : Handler} (hrecord : handler.reaction = .record)
    {count : Nat} {result : Except Stop Unit} (hinstalls : t.Installs count result) :
    Later s (t.installed handler count) := by
  refine ⟨h.wired.installed hrecord hinstalls.count_le, fun core b hb => ?_⟩
  have hcore := h.kept core b hb
  obtain ⟨error, hobstacle⟩ := Soc.exists_obstacle_of_binding hcore
  rw [t.binding?_installed handler hinstalls.count_le,
    if_neg fun hlt => hinstalls.clear core hlt error hobstacle, hcore]

/-- One step: no turn takes a handler away. -/
theorem turn_maintains {turn : Turn} (hfair : turn.Fair) :
    Maintains (fun w => Later s w.hardware) (turn.run mailbox?) := by
  cases turn with
  | connect config =>
      have hconnect : Maintains (fun w => Later s w.hardware)
          (Mailbox.connect Soc.platform config) := .of_after fun w hw =>
        have hkept := Mailbox.connect_undisturbed hfair w
        hw.of_eq hkept.addresses hkept.handlers
      exact .bind hconnect fun _ => .pure
  | install mb handler =>
      refine Maintains.bind (fun w hw => ?_) fun _ => .pure
      refine (mb.installHandler_ends handler w.hardware).mono (fun _ h => h) ?_ ?_ w rfl
      · rintro u w' ⟨hinstalls, hw'⟩
        exact hw' ▸ hw.installed hfair hinstalls
      · rintro stop w' ⟨last, hinstalls, hw'⟩
        exact hw' ▸ hw.installed hfair hinstalls
  | inject faults =>
      exact .bind (Ends.setHardware fun w hw => hw.of_eq rfl rfl) fun _ => .pure
  | fire core =>
      refine .bind (fun w hw => ?_) fun _ => .pure
      rw [Soc.fire_run mailbox? core w hw.wired.records]
      exact hw
  | post core code flags data =>
      refine .bind (fun w hw => ?_) fun _ => .pure
      have hlt := Firmware.inboundIndex_lt hfair.1
      have hplace := Soc.placedAt_boot hw.wired.addresses ⟨inboundBase + core, hlt⟩
      rw [Firmware.post_run mailbox? hfair.1 (Layout.boot.inside _) hplace code flags hfair.2
        hw.wired.records]
      exact hw.of_eq rfl rfl

end Later

/-- A whole run: every chip reached is a later one. -/
theorem Reached.later {s t : Soc} (h : Reached mailbox? s t) (hs : Wired s) : Later s t := by
  induction h with
  | nil => exact ⟨hs, fun _ _ hb => hb⟩
  | snoc turn hfair j past ih => exact (Later.turn_maintains mailbox? hfair).after ih

/-- From a chip whose areas are where the firmware puts them and which has no
    handler, whatever happened: the next turn does what is expected of it, and
    a handler that is installed by then stays for good. -/
theorem reached_delivers {start : Soc} (haddresses : start.addresses = Soc.bootAddresses)
    (hnone : ∀ core, start.binding? core = none) :
    ∀ s, Reached mailbox? start s → Delivers mailbox? s ∧
      ∀ t, Reached mailbox? s t → ∀ core b, s.binding? core = some b →
        t.binding? core = some b := by
  intro s hs
  have hvacant : ∀ core b, start.binding? core ≠ some b := fun core b hb => by
    rw [hnone core] at hb
    cases hb
  have hstart : Wired start :=
    ⟨haddresses, fun core b hb => (hvacant core b hb).elim,
      fun core b hb => (hvacant core b hb).elim⟩
  have hwired := (hs.later mailbox? hstart).wired
  exact ⟨hwired.delivers mailbox?, fun t ht => (ht.later mailbox? hwired).kept⟩

/-- While core 2 is refused a handler gets to the cores before it. The next
    handler then gets nowhere, and the first one is called as before. -/
theorem reached_delivers_booted :
    ∃ s, Reached (fun _ => none) Soc.booted s ∧
      runStep s ((Script.ChipStep.fire 1).run fun _ => none) =
        ⟨.ok (.flag true), [.handled ⟨.record, some 0⟩ 9 .recorded], s, s⟩ ∧
      runStep s ((Script.ChipStep.fire 2).run fun _ => none) =
        ⟨.ok (.flag false), [.log (.spuriousDoorbell 2)], s, s⟩ := by
  obtain ⟨mb, w, -⟩ := Mailbox.exists_connect_booted
  have hrefused : Reached (fun _ => none) Soc.booted _ :=
    .snoc (.inject { Injection.none with refusedCore := some (2, .occupied 7) }) trivial [] .nil
  have hfirst : Reached (fun _ => none) Soc.booted _ :=
    .snoc (.install mb ⟨.record, some 0⟩) rfl [] hrefused
  have hgranted : Reached (fun _ => none) Soc.booted _ :=
    .snoc (.inject .none) trivial [] hfirst
  have hsecond : Reached (fun _ => none) Soc.booted _ :=
    .snoc (.install mb ⟨.record, some 1⟩) rfl [] hgranted
  have hdelivers := (reached_delivers (fun _ => none) rfl Soc.binding?_booted _ hsecond).1
  exact ⟨_, hsecond, hdelivers.fire 1 _ rfl, hdelivers.vacant 2 rfl⟩

end Interrupts

end BpmpMailbox
