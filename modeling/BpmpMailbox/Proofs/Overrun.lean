import Mathlib.Data.Nat.Find
import BpmpMailbox.Proofs.BringUp
import BpmpMailbox.Proofs.Effects.BringUp
import BpmpMailbox.Proofs.Holding
import BpmpMailbox.Script.Step

/-!
# A window past the address range

The check of a configuration bounds its window from below only. A window near
the top of the address range passes it, and the end of the first area is
computed as an address before it is compared with the end of the memory. Where
that sum does not fit, the bring-up stops with an overflow instead of a
refusal, and a stop of this kind takes nothing back: the two register blocks
remain mapped.

The sum is formed at all only if everything before it went well, which is what
`Soc.Overruns` lists. It is the first mapping or none: an area that was mapped
had its end inside the memory, so the window is at most as large as the memory,
and then no published address, being a word, brings its end past the range.

In every other case a bring-up gives a mailbox or a refusal, whatever blocks
the configuration names and whatever state the chip is in, and a refusal leaves
as many regions mapped as there were.

## Main definitions

* `Soc.handshakeWord`: What a register block answers in the place of the word.
* `Soc.FirstPast`: The end of the first area does not fit an address.
* `Soc.HandshakePast`, `Soc.Overruns`: A handshake, or a bring-up, comes as far as forming that sum.
* `Overran`: A bring-up was refused, or it overflowed with a number of regions mapped.

## Theorems

* `Custody.live`: The number of regions mapped follows the regions held.
* `mapAreas_overran`, `handshake_overran`, `Mailbox.connect_overran`: When a bring-up overflows.
* `Mailbox.connect_overflows_iff`: What becomes of a bring-up, and of the regions.
-/

namespace BpmpMailbox

/-- The number of regions mapped follows the regions held. -/
theorem Custody.live (start : BitVec 64) :
    Custody fun held w => w.hardware.liveRegions = start + BitVec.ofNat 64 held.length where
  perm hp hw := hp.length_eq ▸ hw
  noted _ _ hw := hw
  asked value hw := by
    rw [World.moved_hardware, Soc.discoveryWrite, if_pos rfl]
    exact hw
  counted hw := hw
  handedOut {held w} kind hw := by
    change w.hardware.liveRegions + 1#64 = _
    rw [hw, List.length_cons, BitVec.ofNat_add, BitVec.add_assoc]
  takenBack {held w} region hw := by
    change w.hardware.liveRegions - 1#64 = _
    rw [hw, List.length_cons, BitVec.ofNat_add, ← BitVec.add_assoc, BitVec.add_sub_cancel]

namespace Soc

/-- What a register block answers where the semaphore has the word. -/
def handshakeWord (s : Soc) : RegionKind → Word
  | .discovery => s.trigger
  | .semaphore => s.word
  | .dram .. => 0#32

/-- The first area is not refused, and its end does not fit an address. -/
structure FirstPast (s : Soc) (window : Nat) : Prop where
  allowed : s.faults.failingMapping ≠ some s.memoryMappings
  above : dramBase ≤ (s.published 0).toNat
  past : addressLimit ≤ (s.published 0).toNat + window

/-- The handshake with the word read from a block of some kind comes as far as
    mapping the first area, whose end does not fit an address. -/
structure HandshakePast (s : Soc) (kind : RegionKind) (window : Nat) : Prop where
  word : s.handshakeWord kind ≠ 0#32
  published : ∀ channel < channelCount, s.published channel ≠ 0#32
  first : s.FirstPast window

/-- A bring-up comes as far as mapping the first area, whose end does not fit
    an address. -/
structure Overruns (s : Soc) (config : Configuration) : Prop where
  discovery : s.resource? config.discoveryBlock = some .discovery
  handshake : ∃ kind, s.resource? config.semaphoreBlock = some kind ∧
    s.HandshakePast kind config.areaWindow

/-- Such a window holds a message, so the check of the configuration lets it pass. -/
theorem Overruns.check {s : Soc} {config : Configuration} (h : s.Overruns config) :
    config.check = .ok () := by
  rcases h.handshake with ⟨kind, -, hpast⟩
  have haddr := (s.published 0).isLt
  have hpast := hpast.first.past
  have hwindow : ¬ config.areaWindow < messageSize := by
    simp only [addressLimit, messageSize] at hpast ⊢
    omega
  rw [Configuration.check, if_neg hwindow]

end Soc

/-- The bring-up was refused where it does not overflow, or it overflowed where
    it does, with so many regions mapped. -/
def Overran (overflows : Prop) (live : BitVec 64) (e : Stop) (w : World Soc) : Prop :=
  (∃ r, e = .refused r) ∧ ¬ overflows ∨
    e = .fault (.overflow .add) ∧ overflows ∧ w.hardware.liveRegions = live

theorem Overran.congr {p q : Prop} (hpq : p ↔ q) {live : BitVec 64} {e : Stop} {w : World Soc}
    (h : Overran p live e w) : Overran q live e w :=
  h.imp (And.imp_right (not_congr hpq).mp) (And.imp_right (And.imp_left hpq.mp))

section

variable {s : Soc} {live : BitVec 64}

/-- The first mapping overflows, or it does not and gives only windows that fit
    the memory. -/
theorem mapMemory_overran (window : Nat) :
    Ends (fun w => w.hardware.conditions = s.conditions ∧ w.hardware.liveRegions = live)
      (Soc.platform.mapMemory (s.published 0).toNat window)
      (fun region? _ => ¬ s.FirstPast window ∧ (region?.isSome → window ≤ dramSize))
      (Overran (s.FirstPast window) live) := by
  rintro w ⟨hconditions, hlive⟩
  have hfaults : w.hardware.faults = s.faults := congrArg Conditions.faults hconditions
  have hcount : w.hardware.memoryMappings = s.memoryMappings :=
    congrArg Conditions.memoryMappings hconditions
  rw [Soc.platform_mapMemory, hfaults, hcount]
  split_ifs with hfailing hbelow hpast hin
  · exact ⟨fun h => h.allowed hfailing, nofun⟩
  · exact ⟨fun h => Nat.not_lt.mpr h.above hbelow, nofun⟩
  · exact Or.inr ⟨rfl, ⟨hfailing, Nat.not_lt.mp hbelow, hpast⟩, hlive⟩
  · exact ⟨fun h => hpast h.past, fun _ => by omega⟩
  · exact ⟨fun h => hpast h.past, nofun⟩

/-- The mapping of the areas overflows at the first of them or not at all. -/
theorem mapAreas_overran {window : Nat} {channel : Channel} (areas : List (Channel × Word)) :
    Ends (fun w => w.hardware.conditions = s.conditions ∧ w.hardware.liveRegions = live)
      (mapAreas Soc.platform.toMapping window [] ((channel, s.published 0) :: areas))
      (fun _ _ => ¬ s.FirstPast window) (Overran (s.FirstPast window) live) := by
  refine Ends.bind (mapMemory_overran window) fun region? => ?_
  cases region? with
  | none => exact fun w hw => Or.inl ⟨⟨_, rfl⟩, hw.1⟩
  | some region =>
      rintro w ⟨hno, hsize⟩
      -- The window fits the memory, so no other area can reach past the range.
      have hrest : Ends (fun _ => True)
          (mapAreas Soc.platform.toMapping window ([] ++ [region]) areas)
          (fun _ _ => ¬ s.FirstPast window) (Overran (s.FirstPast window) live) := by
        refine (@Custody.mapAreas_ends _ (Custody.le_handouts 0) [] _ areas [region]).mono
          (fun _ _ => Nat.zero_le _) (fun _ _ _ => hno) ?_
        rintro e v (⟨⟨r, rfl⟩, -⟩ | ⟨-, hlimit⟩)
        · exact Or.inl ⟨⟨_, rfl⟩, hno⟩
        · have hfits := hsize rfl
          simp only [dramSize, addressLimit] at hfits hlimit
          omega
      have hlogged : Ends (fun _ => True) (log (.areaMapped channel (s.published 0)))
          (fun _ _ => True) (Overran (s.FirstPast window) live) := Ends.log fun _ _ => trivial
      exact hlogged.bind (fun _ => hrest) w trivial

/-- A register block answers where the semaphore has the word. -/
theorem Region.handshakeWord_run {region : Region} (hr : region.IsBlock) (w : World Soc) :
    (⟨Soc.platform.bus region⟩ : Semaphore Soc).status w =
      .ok (w.hardware.handshakeWord region.kind)
        (w.moved w.hardware [.call (.access region (.read statusPort))]) := by
  rw [Semaphore.status, Soc.platform_read]
  rcases hr with hr | hr <;> simp only [Soc.regionBus, hr]
  · rfl
  · rfl

end

section Handshake

variable {s : Soc} {w₀ w : World Soc} {calls : List HardwareCall} {discovery semaphore : Region}
  (hs : semaphore.IsBlock) (window : Nat)

include hs

/-- With the semaphore in the place of the discovery registers no area is found. -/
theorem handshake_misplaced (hd : discovery.kind = .semaphore) (w : World Soc) :
    ∃ r w', handshake Soc.platform.toMapping (Soc.platform.bus discovery)
      ⟨Soc.platform.bus semaphore⟩ window w = .error (.refused r) w' := by
  rcases Channel.drop_all (show 0 < channelCount by decide) with ⟨c, hindex, hall, -⟩
  rw [List.drop_zero] at hall
  unfold handshake
  rw [bind_ok (Region.handshakeWord_run hs w), hall]
  split
  · exact ⟨_, _, rfl⟩
  · have hlt : c.index < channelCount := by
      rw [hindex]
      decide
    rcases discoverAreas_semaphore hd hlt (Channel.all.drop 1)
      (w.moved w.hardware [.call (.access semaphore (.read statusPort))]) with ⟨w', hrefused⟩
    exact ⟨_, w', bind_error hrefused⟩

/-- The handshake of two register blocks overflows when it comes as far as the first area. -/
theorem handshake_overran (hd : discovery.kind = .discovery)
    (h : w₀.Called w (s.worked 0 0 2 0) calls) :
    Ends (· = w)
      (handshake Soc.platform.toMapping (Soc.platform.bus discovery)
        ⟨Soc.platform.bus semaphore⟩ window)
      (fun _ _ => ¬ s.HandshakePast semaphore.kind window)
      (Overran (s.HandshakePast semaphore.kind window) (s.liveRegions + 2#64)) := by
  rintro v rfl
  have hword : v.hardware.handshakeWord semaphore.kind = s.handshakeWord semaphore.kind := by
    rw [h.hardware_eq]
    rfl
  have hread := h.moved (s.worked 0 0 2 0) [.call (.access semaphore (.read statusPort))]
  have hstatus := Region.handshakeWord_run hs v
  rw [hword, h.hardware_eq] at hstatus
  unfold handshake
  rw [bind_ok hstatus]
  by_cases hzero : s.handshakeWord semaphore.kind = 0#32
  · rw [if_pos hzero]
    exact Or.inl ⟨⟨_, rfl⟩, fun hno => hno.word hzero⟩
  rw [if_neg hzero]
  by_cases hfound : ∀ channel < channelCount, s.published channel ≠ 0#32
  · rcases discoverAreas_found hd hread hfound with ⟨v₁, hcalled, hsearch⟩
    rcases Channel.drop_all (show 0 < channelCount by decide) with ⟨c, hindex, hall, -⟩
    rw [List.drop_zero] at hall
    have hareas : s.publishedAreas = (c, s.published 0) ::
        (Channel.all.drop 1).map fun c => (c, s.published c.index) := by
      rw [Soc.publishedAreas, hall, List.map_cons, hindex]
      rfl
    rw [bind_ok hsearch, hareas]
    have hiff : s.FirstPast window ↔ s.HandshakePast semaphore.kind window :=
      ⟨fun hpast => ⟨hzero, hfound, hpast⟩, fun hpast => hpast.first⟩
    have hlive : v₁.hardware.liveRegions = s.liveRegions + 2#64 := by
      rw [hcalled.hardware_eq]
      exact BitVec.sub_zero _
    have hconditions : v₁.hardware.conditions = s.conditions := by
      rw [hcalled.hardware_eq]
      rfl
    refine Ends.bind ((mapAreas_overran _).mono (fun _ hw => hw)
      (fun _ _ hno => (not_congr hiff).mp hno) fun _ _ hw => hw.congr hiff)
      (fun _ => Ends.pure fun _ hno => hno) v₁ ⟨hconditions, hlive⟩
  · -- The first channel without an area is refused.
    have hno : ∃ channel, channel < channelCount ∧ s.published channel = 0#32 := by
      simpa only [not_forall, not_not, exists_prop] using hfound
    have hleast : ∀ other < Nat.find hno, s.published other ≠ 0#32 := fun other hlt hother =>
      Nat.find_min hno hlt ⟨Nat.lt_trans hlt (Nat.find_spec hno).1, hother⟩
    rcases discoverAreas_noArea hd hread (Nat.find_spec hno).1 (Nat.find_spec hno).2 hleast with
      ⟨v₁, -, hsearch⟩
    rw [bind_error hsearch]
    exact Or.inl ⟨⟨_, rfl⟩, fun hall => hfound hall.published⟩

omit hs in
/-- The handshake of the blocks that the configuration names. -/
theorem handshake_overruns {config : Configuration}
    (hdiscovery : s.resource? config.discoveryBlock = some discovery.kind)
    (hsemaphore : s.resource? config.semaphoreBlock = some semaphore.kind)
    (h : w₀.Called w (s.worked 0 0 2 0) calls) :
    Ends (· = w)
      (handshake Soc.platform.toMapping (Soc.platform.bus discovery)
        ⟨Soc.platform.bus semaphore⟩ config.areaWindow)
      (fun _ _ => ¬ s.Overruns config) (Overran (s.Overruns config) (s.liveRegions + 2#64)) := by
  have hs := Soc.isBlock_of_resource hsemaphore
  rcases Soc.isBlock_of_resource hdiscovery with hd | hd
  · have hiff : s.HandshakePast semaphore.kind config.areaWindow ↔ s.Overruns config := by
      refine ⟨fun hpast => ⟨hd ▸ hdiscovery, _, hsemaphore, hpast⟩, fun hover => ?_⟩
      rcases hover.handshake with ⟨kind, hkind, hpast⟩
      rwa [← Option.some.inj (hkind.symm.trans hsemaphore)]
    exact (handshake_overran hs config.areaWindow hd h).mono (fun _ hw => hw)
      (fun _ _ hno => (not_congr hiff).mp hno) fun _ _ hw => hw.congr hiff
  · rintro v rfl
    rcases handshake_misplaced hs config.areaWindow hd v with ⟨r, v', hrefused⟩
    rw [hrefused]
    refine Or.inl ⟨⟨r, rfl⟩, fun hno => ?_⟩
    rw [hno.discovery, hd] at hdiscovery
    cases hdiscovery

end Handshake

namespace Mailbox

open Script (runStep)

/-- What follows an attempted handshake does not stop on its own, so a bring-up
    ends as its handshake does. -/
theorem settle_overran {p : Prop} {live : BitVec 64} {pre : World Soc → Prop}
    {act : Action Soc AreaTable} (h : Ends pre act (fun _ _ => ¬ p) (Overran p live))
    (discovery semaphore : Region) (config : Configuration) :
    Ends pre
      (do
        let found ← attempt act
        Soc.platform.unmap discovery
        match found with
        | .ok areas =>
          log (.connected areas.windows.length config.doorbellLine)
          pure (⟨semaphore, areas, config⟩ : Mailbox)
        | .error e =>
          Soc.platform.unmap semaphore
          refuse e)
      (fun _ _ => ¬ p) (Overran p live) := by
  have hfound : Ends pre (attempt act) (fun _ _ => ¬ p) (Overran p live) := by
    refine Ends.attempt h ?_ fun _ _ hstop => hstop
    rintro e w (⟨-, hno⟩ | ⟨hfault, -⟩)
    · exact hno
    · cases hfault
  refine Ends.bind hfound fun found => Ends.bind (Soc.unmap_keeps _ discovery) fun _ => ?_
  cases found with
  | ok areas =>
      exact Ends.bind (M := fun _ _ => ¬ p) (Ends.log fun _ hno => hno) fun _ =>
        Ends.pure fun _ hno => hno
  | error e =>
      exact Ends.bind (Soc.unmap_keeps _ semaphore) fun _ =>
        Ends.refuse fun _ hno => Or.inl ⟨⟨_, rfl⟩, hno⟩

/-- A bring-up overflows when it comes as far as mapping a first area whose end
    does not fit, and then both register blocks are mapped. -/
theorem connect_overran (s : Soc) (config : Configuration) (journal : List Event) :
    Ends (· = ⟨s, journal⟩) (connect Soc.platform config) (fun _ _ => ¬ s.Overruns config)
      (Overran (s.Overruns config) (s.liveRegions + 2#64)) := by
  rintro _ rfl
  have hstart : World.Called ⟨s, journal⟩ ⟨s, journal⟩ (s.worked 0 0 0 0) [] :=
    World.Called.start ⟨s, journal⟩
  unfold connect
  cases hcheck : config.check with
  | error r => exact Or.inl ⟨⟨r, rfl⟩, fun h => nomatch hcheck.symm.trans h.check⟩
  | ok u =>
      cases hres : s.resource? config.discoveryBlock with
      | none =>
          rcases hstart.mapBlock_missing hres with ⟨v, -, hmissing⟩
          simp only
          rw [bind_ok hmissing]
          exact Or.inl ⟨⟨_, rfl⟩, fun h => nomatch hres.symm.trans h.discovery⟩
      | some kind =>
          rcases hstart.mapBlock hres with ⟨v, hcalled, hmapped⟩
          simp only
          rw [bind_ok hmapped]
          cases hres₁ : s.resource? config.semaphoreBlock with
          | none =>
              rcases hcalled.mapBlock_missing hres₁ with ⟨v₁, -, hmissing⟩
              simp only
              rw [bind_ok hmissing]
              refine Or.inl ⟨⟨_, rfl⟩, fun h => ?_⟩
              rcases h.handshake with ⟨kind₁, hkind₁, -⟩
              exact nomatch hres₁.symm.trans hkind₁
          | some kind₁ =>
              rcases hcalled.mapBlock hres₁ with ⟨v₁, hcalled₁, hmapped₁⟩
              simp only
              rw [bind_ok hmapped₁]
              exact settle_overran (handshake_overruns hres hres₁ hcalled₁) _ _ config v₁ rfl

/-- A bring-up overflows, with the two register blocks still mapped, exactly when
    it comes as far as mapping a first area whose end does not fit an address.
    Otherwise it gives a mailbox, for which thirteen regions are mapped, or it
    is refused and no more regions are mapped than before. -/
theorem connect_overflows_iff (s : Soc) (config : Configuration) :
    (s.Overruns config →
      (runStep s (connect Soc.platform config)).result = .error (.fault (.overflow .add)) ∧
        (runStep s (connect Soc.platform config)).after.liveRegions = s.liveRegions + 2#64) ∧
    (¬ s.Overruns config →
      (∃ mb, (runStep s (connect Soc.platform config)).result = .ok mb ∧
        (runStep s (connect Soc.platform config)).after.liveRegions = s.liveRegions + 13#64) ∨
      (∃ r, (runStep s (connect Soc.platform config)).result = .error (.refused r) ∧
        (runStep s (connect Soc.platform config)).after.liveRegions = s.liveRegions)) := by
  have hends := connect_overran s config [] ⟨s, []⟩ rfl
  have hlive := (Custody.live s.liveRegions).connect_ends config (w := ⟨s, []⟩)
    (BitVec.add_zero _).symm _ rfl
  cases hconnect : connect Soc.platform config ⟨s, []⟩ with
  | ok mb w =>
      rw [hconnect] at hends hlive
      rw [runStep_ok hconnect]
      refine ⟨fun h => absurd h hends, fun _ => Or.inl ⟨mb, rfl, ?_⟩⟩
      rw [hlive.2.1, hlive.1]
      rfl
  | error e w =>
      rw [hconnect] at hends hlive
      rw [runStep_error hconnect]
      rcases hends with ⟨⟨r, rfl⟩, hno⟩ | ⟨rfl, hover, hmapped⟩
      · refine ⟨fun h => absurd h hno, fun _ => Or.inr ⟨r, rfl, ?_⟩⟩
        rcases hlive with ⟨-, hkept⟩ | ⟨⟨f, hf⟩, -⟩
        · rw [hkept]
          exact BitVec.add_zero _
        · cases hf
      · exact ⟨fun _ => ⟨rfl, hmapped⟩, fun h => absurd hover h⟩

/-- The largest window there is passes the check, and on a chip whose firmware
    has started it leaves both register blocks mapped. -/
theorem connect_overflows_booted :
    ({ Configuration.standard with areaWindow := addressLimit - 1 } : Configuration).check =
        .ok () ∧
      (runStep Soc.booted (connect Soc.platform
        { Configuration.standard with areaWindow := addressLimit - 1 })).result =
          .error (.fault (.overflow .add)) ∧
      (runStep Soc.booted (connect Soc.platform
        { Configuration.standard with areaWindow := addressLimit - 1 })).after.liveRegions =
          2#64 := by
  have hover : Soc.booted.Overruns { Configuration.standard with areaWindow := addressLimit - 1 } :=
    { discovery := by decide
      handshake := ⟨.semaphore, by decide, by decide +kernel, by decide +kernel,
        by decide, by decide +kernel, by decide +kernel⟩ }
  exact ⟨hover.check, (connect_overflows_iff Soc.booted _).1 hover⟩

end Mailbox

end BpmpMailbox
