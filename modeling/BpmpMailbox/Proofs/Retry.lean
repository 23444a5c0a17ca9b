import BpmpMailbox.Proofs.BringUp

/-!
# Trying again

A bring-up that was refused may be tried again, and the question is what the
first attempt has left behind. It leaves the trigger with the last command, and
counters that have gone up: of discoveries, of mappings, of regions. It leaves
alone everything that the other side and the mailboxes use, whatever blocks the
configuration names and wherever the attempt stopped.

The rest is what a bring-up depends on. The counter of mappings is the one
thing left behind that a later attempt reads, and it reads it only to find out
whether this is the mapping that is made to fail. Without injected faults an
attempt therefore ends as the first one would have, after any number of others.

## Main definitions

* `Soc.Undisturbed`: Nothing has changed but what discovery and mapping leave behind.
* `Attempts`: Attempts to bring a mailbox up, with faults injected in between.

## Theorems

* `Mailbox.connect_undisturbed`: A bring-up leaves alone what others use.
* `Conditions.bringUp_congr`: Without injected faults only the word and the addresses matter.
* `Mailbox.connect_retryable`: An attempt after others ends as the first one would have.
-/

namespace BpmpMailbox

/-- Nothing has changed but what discovery and mapping leave behind. -/
structure Soc.Undisturbed (s t : Soc) : Prop where
  word : t.word = s.word
  dram : t.dram = s.dram
  addresses : t.addresses = s.addresses
  handlers : t.handlers = s.handlers
  rings : t.rings = s.rings
  faults : t.faults = s.faults

theorem Custody.undisturbed (s : Soc) : Custody fun _ w => s.Undisturbed w.hardware where
  perm _ hw := hw
  noted _ _ hw := hw
  asked value hw := by
    rw [World.moved_hardware, Soc.discoveryWrite, if_pos rfl]
    exact ⟨hw.word, hw.dram, hw.addresses, hw.handlers, hw.rings, hw.faults⟩
  counted hw := ⟨hw.word, hw.dram, hw.addresses, hw.handlers, hw.rings, hw.faults⟩
  handedOut _ hw := ⟨hw.word, hw.dram, hw.addresses, hw.handlers, hw.rings, hw.faults⟩
  takenBack _ hw := ⟨hw.word, hw.dram, hw.addresses, hw.handlers, hw.rings, hw.faults⟩

/-- A bring-up leaves alone what others use, whatever comes of it and whatever
    blocks it was told to use. -/
theorem Mailbox.connect_undisturbed {config : Configuration}
    (hwindow : config.areaWindow < addressLimit / 2) (w : World Soc) :
    w.hardware.Undisturbed (w.after (connect Soc.platform config)).hardware := by
  have hself : w.hardware.Undisturbed w.hardware := ⟨rfl, rfl, rfl, rfl, rfl, rfl⟩
  have hends := (Custody.undisturbed w.hardware).connect_ends config hself w rfl
  unfold World.after
  split <;> rename_i hconnect <;> rw [hconnect] at hends
  · exact hends.2.1
  · rcases hends with ⟨-, hw⟩ | ⟨-, hlimit⟩
    · exact hw
    · -- Such a window is far from the end of the address range.
      simp only [addressLimit] at hlimit hwindow
      omega

/-- Attempts to bring a mailbox up, one after the other and whatever came of
    them, with faults injected in between. -/
inductive Attempts (start : Soc) : Soc → Prop where
  | nil : Attempts start start
  | injected {s : Soc} (faults : Injection) (past : Attempts start s) :
    Attempts start { s with faults := faults }
  | attempted {s : Soc} (config : Configuration) (hwindow : config.areaWindow < addressLimit / 2)
    (j : List Event) (past : Attempts start s) :
    Attempts start
      (World.after ⟨s, j⟩ (Mailbox.connect Soc.platform config)).hardware

/-- After any number of attempts the chip is as it was, but for the faults injected. -/
theorem Attempts.undisturbed {start s : Soc} (h : Attempts start s) :
    start.Undisturbed { s with faults := start.faults } := by
  induction h with
  | nil => exact ⟨rfl, rfl, rfl, rfl, rfl, rfl⟩
  | injected faults past ih => exact ⟨ih.word, ih.dram, ih.addresses, ih.handlers, ih.rings, rfl⟩
  | @attempted s config hwindow j past ih =>
      have hstep := Mailbox.connect_undisturbed hwindow ⟨s, j⟩
      exact ⟨hstep.word.trans ih.word, hstep.dram.trans ih.dram,
        hstep.addresses.trans ih.addresses, hstep.handlers.trans ih.handlers,
        hstep.rings.trans ih.rings, rfl⟩

/-- When no mapping is made to fail, it does not matter how many came before. -/
theorem mappedAreas_count (window : Nat) : ∀ (areas : List (Channel × Word)) (count count' : Nat),
    mappedAreas none window count areas = mappedAreas none window count' areas := by
  intro areas
  induction areas with
  | nil => intro _ _; rfl
  | cons area areas ih =>
      intro count count'
      have hmapping : mapping none count area.2.toNat window =
          mapping none count' area.2.toNat window := rfl
      rw [mappedAreas, mappedAreas, hmapping, ih (count + 1) (count' + 1)]

/-- Without injected faults a bring-up depends on the word and the addresses alone. -/
theorem Conditions.bringUp_congr {c c' : Conditions} (hword : c.word = c'.word)
    (haddresses : c.addresses = c'.addresses) (hfaults : c.faults = .none)
    (hfaults' : c'.faults = .none) (config : Configuration) :
    c.bringUp config = c'.bringUp config := by
  have hmapped : mappedAreas c.faults.failingMapping config.areaWindow c.memoryMappings =
      mappedAreas c'.faults.failingMapping config.areaWindow c'.memoryMappings := by
    rw [hfaults, hfaults']
    exact funext fun areas => mappedAreas_count config.areaWindow areas _ _
  unfold bringUp handshake
  rw [hmapped, hfaults, hfaults', hword, haddresses]

namespace Mailbox

/-- A bring-up touches nothing but discovery, and it can be tried again: after
    any attempts, with any faults in between, a bring-up of the chip's own
    blocks without faults ends as it would have ended before all of them, with
    the same stop or with a mailbox that has the same twelve windows. -/
theorem connect_retryable :
    (∀ config : Configuration, config.areaWindow < addressLimit / 2 → ∀ w : World Soc,
      w.hardware.Undisturbed (w.after (connect Soc.platform config)).hardware) ∧
    ∀ start s : Soc, Attempts start s → ∀ config : Configuration,
      config.discoveryBlock = 0 → config.semaphoreBlock = 1 → ∀ j j' : List Event,
        (World.answer ⟨{ s with faults := .none }, j⟩ (connect Soc.platform config)).map shape =
          (World.answer ⟨{ start with faults := .none }, j'⟩
            (connect Soc.platform config)).map shape ∧
        ∀ mb, World.answer ⟨{ s with faults := .none }, j⟩ (connect Soc.platform config) = .ok mb →
          mb.areas.windows.length = channelCount := by
  refine ⟨fun config hwindow => connect_undisturbed hwindow,
    fun start s hpast config hdiscovery hsemaphore j j' => ⟨?_, ?_⟩⟩
  · have hkept := hpast.undisturbed
    rw [shape_connect hdiscovery hsemaphore, shape_connect hdiscovery hsemaphore]
    -- The word and the addresses are those from before the first attempt.
    exact congrArg _ (Conditions.bringUp_congr hkept.word hkept.addresses rfl rfl config)
  · intro mb hanswer
    cases hconnect : connect Soc.platform config ⟨{ s with faults := .none }, j⟩ with
    | error e w =>
        rw [World.answer_error hconnect] at hanswer
        cases hanswer
    | ok mb₁ w =>
        rw [World.answer_ok hconnect] at hanswer
        cases hanswer
        have hlength := ((Custody.le_handouts 0).connect_ends config
          (Nat.zero_le _)).post_of_ok rfl hconnect
        exact Nat.succ.inj hlength.1

/-- A chip whose firmware has just started, after attempts with the blocks
    mixed up, without the semaphore, and with a mapping that is made to fail. -/
theorem connect_retryable_booted :
    ∃ s, Attempts Soc.booted s ∧
      (World.answer ⟨{ s with faults := .none }, []⟩
        (connect Soc.platform .standard)).map shape =
          .ok ((List.range channelCount).map fun channel =>
            .dram (channel * messageSize) messageSize, .semaphore, .standard) := by
  have hmixed : Attempts Soc.booted _ :=
    .attempted { Configuration.standard with discoveryBlock := 1, semaphoreBlock := 0 }
      (by decide) [] .nil
  have hmissing : Attempts Soc.booted _ :=
    .attempted .standard (by decide) [] (.injected { Injection.none with missingBlock := some 1 }
      hmixed)
  have hpast : Attempts Soc.booted _ :=
    .attempted .standard (by decide) [] (.injected { Injection.none with failingMapping := some 5 }
      hmissing)
  refine ⟨_, hpast, ?_⟩
  rw [(connect_retryable.2 _ _ hpast .standard rfl rfl [] []).1, shape_connect rfl rfl]
  decide +kernel

end Mailbox

end BpmpMailbox
