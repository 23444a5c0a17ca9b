import Mathlib.Data.List.Forall2
import BpmpMailbox.Proofs.Effects.Region
import BpmpMailbox.Mailbox

/-!
# What a connected mailbox holds

A mailbox comes out of `connect` and from nowhere else, so whatever its
operations rely on has to be read off a bring-up that came to its end. Two
facts are enough for all of them. The semaphore's region is the chip's
semaphore, when the configuration names that block. And the window of every
channel begins with a whole message, at the place that the firmware has
published for the channel: the configuration was checked to ask for at least a
message, and a window that does not lie inside the memory is not handed out.

The bring-up is taken apart backwards, from its end to the address that each
channel was asked for. Asking writes the trigger register only, so all
channels are answered from the same table of addresses.

How many windows there are does not depend on the chip. Every channel was asked
for and every area mapped, on whatever platform, so the facts that count them
are stated for all platforms.

## Main definitions

* `Soc.published`: The address published for a channel.
* `Soc.asked`: The chip after a channel was asked for.
* `Soc.placeOf`: Where in memory the published address of a channel lies.
* `Mailbox.Placed`: The semaphore is the chip's, and the messages lie at given places.

## Theorems

* `resultAddress_ok`: Where the answer for a channel is read.
* `channelAddress_run`: The answer to a discovery command.
* `discoverAreas_ok`: The areas found are those published.
* `discoverAreas_channels`: There is one for each channel asked.
* `mapAreas_forall₂`: What a mapping ensures holds of every area mapped.
* `Mailbox.exists_of_handshake`, `Mailbox.handshake_of_connect`: The parts of a bring-up that came
  to its end.
* `Mailbox.length_windows_of_connect`: There are as many windows as channels.
* `Mailbox.windows_of_connect`: A connected mailbox has one window for each channel.
* `Mailbox.placed_of_connect`: The windows hold the messages that were published.
* `Mailbox.exists_connect_booted`: A mailbox can be connected once the firmware has started.
-/

namespace BpmpMailbox

namespace Soc

/-- The address published for a channel, zero past the last channel. -/
def published (s : Soc) (channel : Nat) : Word := s.addresses[channel]?.getD 0#32

/-- Where in memory the published address of a channel lies. -/
def placeOf (s : Soc) (channel : Nat) : Nat := (s.published channel).toNat - dramBase

/-- The firmware finds the area of a channel where its address was published. -/
theorem areaOffset_of_address {s : Soc} {channel phys : Nat} {addr : Word}
    (hget : s.addresses[channel]? = some addr) (hphys : addr.toNat = phys) (hle : dramBase ≤ phys) :
    s.areaOffset channel = .ok (phys - dramBase) := by
  rw [areaOffset, hget]
  simp only [subSize, hphys, if_pos hle]

theorem areaOffset_of_le {s : Soc} {channel : Nat} (hlt : channel < channelCount)
    (hle : dramBase ≤ (s.published channel).toNat) :
    s.areaOffset channel = .ok (s.placeOf channel) := by
  have haddr : s.addresses[channel]? = some (s.published channel) := by
    rw [published, Vector.getElem?_eq_getElem hlt, Option.getD_some]
  exact areaOffset_of_address haddr rfl hle

/-- The chip after a channel was asked for. -/
def asked (s : Soc) (channel : Nat) : Soc :=
  s.discoveryWrite triggerAddress (discoveryCommand channel)

@[simp] theorem published_asked (s : Soc) (asked channel : Nat) :
    (s.asked asked).published channel = s.published channel := rfl

theorem discoveryRead_asked (s : Soc) (channel : Nat) :
    (s.asked channel).discoveryRead (resultBase + channel * 4) = s.published channel := by
  -- The results follow the trigger, one word for each channel.
  have hindex : (resultBase + channel * 4 - resultBase) / 4 = channel := by
    simp only [resultBase]
    omega
  have htrigger : ¬ resultBase + channel * 4 = triggerAddress := by
    simp only [resultBase, triggerAddress]
    omega
  rw [discoveryRead, if_neg htrigger, if_neg (by omega), hindex, published]
  exact if_pos rfl

theorem kind_of_resource_zero {s : Soc} {kind : RegionKind} (h : s.resource? 0 = some kind) :
    kind = .discovery := by
  unfold resource? at h
  split at h
  · cases h
  · rw [if_pos rfl, Option.some.injEq] at h
    exact h.symm

theorem kind_of_resource_one {s : Soc} {kind : RegionKind} (h : s.resource? 1 = some kind) :
    kind = .semaphore := by
  unfold resource? at h
  split at h
  · cases h
  · rw [if_neg Nat.one_ne_zero, if_pos rfl, Option.some.injEq] at h
    exact h.symm

/-- A register block that was handed out is the one asked for. -/
theorem mapBlock_ok {index : Nat} {region : Region} {w w' : World Soc}
    (h : platform.mapBlock index w = .ok (some region) w') :
    w.hardware.resource? index = some region.kind ∧
      w'.hardware.addresses = w.hardware.addresses := by
  simp only [platform] at h
  rw [bind_ok (note_moved _ w)] at h
  unfold mapBlock at h
  rw [bind_ok (hardware_run _), World.moved_hardware] at h
  -- A block that is not there is answered with nothing, and a block that is there is
  -- handed out as it is.
  cases hres : w.hardware.resource? index with
  | none =>
      simp only [hres, pure_run] at h
      cases h
  | some kind =>
      simp only [hres] at h
      unfold handOut at h
      rw [bind_ok (hardware_run _), bind_ok (setHardware_run _ _), pure_run] at h
      injection h with hregion hw
      rw [Option.some.injEq] at hregion
      rw [← hregion, ← hw]
      exact ⟨rfl, rfl⟩

/-- A window of memory that was handed out is the one asked for, and lies
    inside the memory. -/
theorem mapMemory_ok {phys size : Nat} {region : Region} {w w' : World Soc}
    (h : platform.mapMemory phys size w = .ok (some region) w') :
    region.kind = .dram (phys - dramBase) size ∧ phys - dramBase + size ≤ dramSize := by
  simp only [platform] at h
  rw [bind_ok (note_moved _ w)] at h
  unfold mapMemory at h
  rw [bind_ok (hardware_run _), bind_ok (setHardware_run _ _)] at h
  -- Three of the four ends of a mapping hand out nothing.
  have hnone : ∀ v : World Soc,
      ¬ (pure none : Action Soc (Option Region)) v = .ok (some region) w' := by
    intro v hv
    cases hv
  split at h
  · exact absurd h (hnone _)
  · split at h
    · exact absurd h (hnone _)
    · rcases exists_of_bind_ok h with ⟨stop, v, hstop, hout⟩
      have hsum : stop = phys + size := by
        unfold addSize at hstop
        split at hstop
        · injection hstop with hstop
          exact hstop.symm
        · cases hstop
      split at hout
      · unfold handOut at hout
        rw [bind_ok (hardware_run _), bind_ok (setHardware_run _ _), pure_run] at hout
        injection hout with hregion
        rw [Option.some.injEq] at hregion
        rw [← hregion]
        exact ⟨rfl, by omega⟩
      · exact absurd hout (hnone _)

end Soc

/-- The index of a channel is small, so the address of its result does not overflow. -/
theorem resultAddress_ok {channel : Nat} (h : channel < channelCount) :
    resultAddress channel = .ok (resultBase + channel * 4) := by
  have hmul : mulSize channel 4 = .ok (channel * 4) := by
    rw [mulSize, if_pos (by simp only [channelCount, addressLimit] at h ⊢; omega)]
  have hadd : addSize resultBase (channel * 4) = .ok (resultBase + channel * 4) :=
    addSize_of_lt (by simp only [channelCount, resultBase, addressLimit] at h ⊢; omega)
  simp only [resultAddress, hmul, bind, Except.bind, hadd]

section Handshake

variable {discovery : Region} (hr : discovery.kind = .discovery)

include hr

theorem channelAddress_run {channel : Nat} (h : channel < channelCount) (w : World Soc) :
    channelAddress (Soc.platform.bus discovery) channel w =
      .ok (w.hardware.published channel)
        (w.moved (w.hardware.asked channel)
          [.call (.access discovery (.write triggerAddress (discoveryCommand channel))),
            .call (.access discovery (.read (resultBase + channel * 4)))]) := by
  have hwrite : (Soc.platform.bus discovery).write triggerAddress (discoveryCommand channel) w =
      .ok () (w.moved (w.hardware.asked channel)
        [.call (.access discovery (.write triggerAddress (discoveryCommand channel)))]) := by
    rw [Soc.platform_write]
    simp only [Soc.regionBus, hr]
    rw [setHardware_moved, World.moved_moved, List.append_nil]
    rfl
  unfold channelAddress
  rw [bind_ok hwrite, bind_ok (ofExcept_ok (resultAddress_ok h) _), Soc.platform_read]
  simp only [Soc.regionBus, hr]
  rw [bind_ok (hardware_run _), pure_run, World.moved_moved, World.moved_hardware,
    World.moved_hardware, Soc.discoveryRead_asked]
  rfl

/-- The areas found are those published, in the order asked. -/
theorem discoverAreas_ok : ∀ (channels : List Channel) (areas : List (Channel × Word))
    (w w' : World Soc), (∀ c ∈ channels, c.index < channelCount) →
      discoverAreas (Soc.platform.bus discovery) channels w = .ok areas w' →
        areas = channels.map fun c => (c, w.hardware.published c.index) := by
  -- By induction on the channels asked. An address of zero ends the search with a refusal.
  intro channels
  induction channels with
  | nil =>
      intro areas w w' _ h
      injection h with h
      exact h.symm
  | cons channel channels ih =>
      intro areas w w' hin h
      unfold discoverAreas at h
      rw [bind_ok (channelAddress_run hr (hin channel List.mem_cons_self) w)] at h
      split at h
      · rw [bind_ok (log_moved _ _), refuse_run] at h
        cases h
      · rcases exists_of_bind_ok h with ⟨rest, v, hrest, hpure⟩
        have htail := ih rest _ v (fun c hc => hin c (List.mem_cons_of_mem _ hc)) hrest
        rw [pure_run] at hpure
        injection hpure with hareas
        -- Asking for one channel leaves the addresses of the others as published.
        simp only [World.moved_hardware, Soc.published_asked] at htail
        rw [← hareas, htail, List.map_cons]

end Handshake

/-- Areas are found for the channels asked, in the order asked. -/
theorem discoverAreas_channels {σ : Type} {discovery : Bus σ} :
    ∀ (channels : List Channel) (areas : List (Channel × Word)) (w w' : World σ),
      discoverAreas discovery channels w = .ok areas w' → areas.map (·.1) = channels := by
  intro channels
  induction channels with
  | nil =>
      intro areas w w' h
      injection h with h
      rw [← h, List.map_nil]
  | cons channel channels ih =>
      intro areas w w' h
      unfold discoverAreas at h
      rcases exists_of_bind_ok h with ⟨addr, v, -, h⟩
      split at h
      · rw [bind_ok (log_moved _ _), refuse_run] at h
        cases h
      · rcases exists_of_bind_ok h with ⟨rest, v₁, hrest, hpure⟩
        rw [pure_run] at hpure
        injection hpure with hareas
        rw [← hareas, List.map_cons, ih rest v v₁ hrest]

section Windows

variable {σ : Type} {io : Mapping σ} (P : Word → Region → Prop) {window : Nat}
  (hP : ∀ addr region v v',
    io.mapMemory addr.toNat window v = .ok (some region) v' → P addr region)

include hP

/-- Whatever a mapping ensures of the window that it hands out holds of every
    area mapped. -/
theorem mapAreas_forall₂ : ∀ (areas : List (Channel × Word)) (mapped regions : List Region)
    (w w' : World σ),
      mapAreas io window mapped areas w = .ok regions w' →
        ∃ fresh, regions = mapped ++ fresh ∧
          List.Forall₂ (fun area region => P area.2 region) areas fresh := by
  -- By induction on the areas still to be mapped; those mapped so far stay in front.
  intro areas
  induction areas with
  | nil =>
      intro mapped regions w w' h
      injection h with h
      exact ⟨[], by rw [← h, List.append_nil], List.Forall₂.nil⟩
  | cons area areas ih =>
      intro mapped regions w w' h
      rcases area with ⟨channel, addr⟩
      unfold mapAreas at h
      rcases exists_of_bind_ok h with ⟨region?, v, hmap, hrest⟩
      cases region? with
      | none =>
          -- What was mapped is given back, and the mapping is refused.
          rcases exists_of_bind_ok hrest with ⟨-, v₁, -, hrest⟩
          rcases exists_of_bind_ok hrest with ⟨-, v₂, -, hrest⟩
          rw [refuse_run] at hrest
          cases hrest
      | some region =>
          rcases exists_of_bind_ok hrest with ⟨-, v₁, -, hrest⟩
          rcases ih _ regions v₁ w' hrest with ⟨fresh, hregions, hfresh⟩
          refine ⟨region :: fresh, ?_, List.Forall₂.cons (hP _ _ _ _ hmap) hfresh⟩
          rw [hregions, List.append_assoc, List.singleton_append]

end Windows

theorem Configuration.le_areaWindow_of_check {config : Configuration}
    (h : config.check = .ok ()) : messageSize ≤ config.areaWindow := by
  unfold check at h
  split at h
  · cases h
  · exact Nat.not_lt.mp (by assumption)

/-- The semaphore of the mailbox is the chip's, and the window of each channel
    begins with a whole message at the given place. -/
structure Mailbox.Placed (mb : Mailbox) (place : Fin channelCount → Nat) : Prop where
  semaphore : mb.semaphoreRegion.kind = .semaphore
  window : ∀ channel : Fin channelCount,
    ∃ region, mb.areas.outbound? channel = some region ∧ region.MessageAt (place channel)

theorem Channel.index_of_getElem?_all : ∀ channel : Fin channelCount,
    (all[channel.val]?).map (·.index) = some channel.val := by
  decide

theorem Channel.index_lt_of_mem_all : ∀ c ∈ all, c.index < channelCount := by
  decide

namespace Mailbox

section

variable {σ : Type} {io : Mapping σ} {bus : Bus σ} {registers : Semaphore σ} {window : Nat}
  {areas : AreaTable} {w w' : World σ}

/-- A handshake that came to its end saw the word, found an area for every
    channel and mapped them all. -/
theorem exists_of_handshake (h : handshake io bus registers window w = .ok areas w') :
    ∃ word v found v₁, registers.status w = .ok word v ∧
      discoverAreas bus Channel.all v = .ok found v₁ ∧
      mapAreas io window [] found v₁ = .ok areas.windows w' := by
  unfold handshake at h
  rcases exists_of_bind_ok h with ⟨word, v, hstatus, h⟩
  split at h
  · rw [bind_ok (log_moved _ _), refuse_run] at h
    cases h
  · rcases exists_of_bind_ok h with ⟨found, v₁, hfound, h⟩
    rcases exists_of_bind_ok h with ⟨windows, v₂, hmapped, h⟩
    rw [pure_run] at h
    injection h with hareas hw
    rw [← hareas, ← hw]
    exact ⟨word, v, found, v₁, hstatus, hfound, hmapped⟩

/-- There are as many windows as channels, whatever hardware they were mapped on. -/
theorem length_windows_of_handshake (h : handshake io bus registers window w = .ok areas w') :
    areas.windows.length = channelCount := by
  rcases exists_of_handshake h with ⟨word, v, found, v₁, -, hfound, hmapped⟩
  rcases mapAreas_forall₂ (fun _ _ => True) (fun _ _ _ _ _ => trivial) found [] _ v₁ w' hmapped
    with ⟨fresh, hwindows, hfresh⟩
  rw [hwindows, List.nil_append, ← hfresh.length_eq, ← List.length_map (·.1),
    discoverAreas_channels _ _ _ _ hfound]
  decide

end

/-- A handshake that came to its end has one window for each channel, mapped
    at the address published for it. -/
theorem windows_of_handshake (P : Word → Region → Prop) {window : Nat}
    (hP : ∀ addr region v v',
      Soc.platform.mapMemory addr.toNat window v = .ok (some region) v' → P addr region)
    {discovery semaphore : Region} (hr : discovery.kind = .discovery)
    (hs : semaphore.kind = .semaphore) {areas : AreaTable} {w w' : World Soc}
    (h : handshake Soc.platform.toMapping (Soc.platform.bus discovery)
      ⟨Soc.platform.bus semaphore⟩ window w = .ok areas w') :
    areas.windows.length = channelCount ∧ ∀ channel < channelCount,
      ∃ region, areas.outbound? channel = some region ∧
        P (w.hardware.published channel) region := by
  have hlen := length_windows_of_handshake h
  rcases exists_of_handshake h with ⟨word, v, found, v₁, hstatus, hfound, hmapped⟩
  -- Looking at the word has left the addresses as published.
  have hlooked : v.hardware = w.hardware := by
    have hread : (⟨Soc.platform.bus semaphore⟩ : Semaphore Soc).status w = .ok w.hardware.word _ :=
      Region.status_read_run hs w
    rw [hread] at hstatus
    injection hstatus with _ hv
    rw [← hv, World.moved_hardware]
  have hfound := discoverAreas_ok hr _ found _ v₁ Channel.index_lt_of_mem_all hfound
  rcases mapAreas_forall₂ P hP found [] _ v₁ w' hmapped with ⟨fresh, hwindows, hfresh⟩
  rw [List.nil_append] at hwindows
  rw [hwindows] at hlen
  simp only [AreaTable.outbound?]
  rw [hwindows]
  refine ⟨hlen, fun channel hlt => ?_⟩
  -- The window with the channel's number was mapped for the channel with that index.
  have hindex := Channel.index_of_getElem?_all ⟨channel, hlt⟩
  rw [Option.map_eq_some_iff] at hindex
  rcases hindex with ⟨c, hc, hcindex⟩
  have harea : found[channel]? = some (c, w.hardware.published channel) := by
    rw [hfound, List.getElem?_map, hc, Option.map_some, hcindex, hlooked]
  rcases List.getElem?_eq_some_iff.mp harea with ⟨hlt', hvalue⟩
  have hat := hfresh.get hlt' (hlen.symm ▸ hlt)
  simp only [List.get_eq_getElem, hvalue] at hat
  exact ⟨fresh[channel], List.getElem?_eq_getElem _, hat⟩

/-- A bring-up that came to its end took both register blocks, and its
    handshake came to its end. -/
theorem handshake_of_connect {σ : Type} {pf : Platform σ} {config : Configuration} {mb : Mailbox}
    {w w' : World σ} (h : connect pf config w = .ok mb w') :
    config.check = .ok () ∧ ∃ discovery semaphore areas v v₁ v₂,
      pf.mapBlock config.discoveryBlock w = .ok (some discovery) v ∧
      pf.mapBlock config.semaphoreBlock v = .ok (some semaphore) v₁ ∧
      handshake pf.toMapping (pf.bus discovery) ⟨pf.bus semaphore⟩ config.areaWindow v₁ =
        .ok areas v₂ ∧
      mb = ⟨semaphore, areas, config⟩ := by
  unfold connect at h
  -- Each step that fails ends the bring-up with a refusal, which is no mailbox.
  cases hcheck : config.check with
  | error e =>
      simp only [hcheck] at h
      cases h
  | ok u =>
      simp only [hcheck] at h
      rcases exists_of_bind_ok h with ⟨discovery?, v, hdiscovery, h⟩
      cases discovery? with
      | none => cases h
      | some discovery =>
          rcases exists_of_bind_ok h with ⟨semaphore?, v₁, hsemaphore, h⟩
          cases semaphore? with
          | none =>
              rcases exists_of_bind_ok h with ⟨-, v₂, -, h⟩
              cases h
          | some semaphore =>
              rcases exists_of_bind_ok h with ⟨found, v₂, hattempt, h⟩
              rcases exists_of_bind_ok h with ⟨-, v₃, -, h⟩
              rcases exists_of_attempt_ok hattempt with ⟨areas, rfl, hareas⟩ | ⟨e, rfl, -⟩
              · rcases exists_of_bind_ok h with ⟨-, v₄, -, h⟩
                injection h with hmb
                exact ⟨rfl, discovery, semaphore, areas, v, v₁, v₂, hdiscovery, hsemaphore,
                  hareas, hmb.symm⟩
              · -- A refused handshake is answered with a refusal.
                rcases exists_of_bind_ok h with ⟨-, v₄, -, h⟩
                cases h

/-- A connected mailbox has one window for each channel, on any platform. -/
theorem length_windows_of_connect {σ : Type} {pf : Platform σ} {config : Configuration}
    {mb : Mailbox} {w w' : World σ} (h : connect pf config w = .ok mb w') :
    mb.areas.windows.length = channelCount := by
  rcases handshake_of_connect h with ⟨-, _, _, _, _, _, _, -, -, hareas, hmb⟩
  rw [hmb]
  exact length_windows_of_handshake hareas

/-- A mailbox that was connected with the chip's own register blocks has the
    chip's semaphore, the configuration asked for, and one window for each
    channel, mapped at the address published for it. -/
theorem windows_of_connect {config : Configuration} (hdiscovery : config.discoveryBlock = 0)
    (hsemaphore : config.semaphoreBlock = 1) {mb : Mailbox} {w w' : World Soc}
    (h : connect Soc.platform config w = .ok mb w') (P : Word → Region → Prop)
    (hP : messageSize ≤ config.areaWindow → ∀ addr region v v',
      Soc.platform.mapMemory addr.toNat config.areaWindow v = .ok (some region) v' →
        P addr region) :
    (mb.semaphoreRegion.kind = .semaphore ∧ mb.config = config) ∧
      mb.areas.windows.length = channelCount ∧ ∀ channel < channelCount,
        ∃ region, mb.areas.outbound? channel = some region ∧
          P (w.hardware.published channel) region := by
  rcases handshake_of_connect h with
    ⟨hcheck, discovery, semaphore, areas, v, v₁, v₂, hmapped, hmapped₁, hareas, hmb⟩
  rcases Soc.mapBlock_ok hmapped with ⟨hres, haddr⟩
  rcases Soc.mapBlock_ok hmapped₁ with ⟨hres₁, haddr₁⟩
  rw [hdiscovery] at hres
  rw [hsemaphore] at hres₁
  have hkind : discovery.kind = .discovery := Soc.kind_of_resource_zero hres
  have hkind₁ : semaphore.kind = .semaphore := Soc.kind_of_resource_one hres₁
  -- Mapping the register blocks has not moved any area.
  have hpublished : v₁.hardware.published = w.hardware.published := by
    funext channel
    simp only [Soc.published, haddr₁, haddr]
  rw [hmb, ← hpublished]
  exact ⟨⟨hkind₁, rfl⟩, windows_of_handshake P
    (hP (Configuration.le_areaWindow_of_check hcheck)) hkind hkind₁ hareas⟩

/-- What is known of every mailbox that was connected with the chip's own
    register blocks. -/
theorem placed_of_connect {config : Configuration} (hdiscovery : config.discoveryBlock = 0)
    (hsemaphore : config.semaphoreBlock = 1) {mb : Mailbox} {w w' : World Soc}
    (h : connect Soc.platform config w = .ok mb w') :
    mb.Placed (fun channel => w.hardware.placeOf channel) ∧ mb.config = config := by
  have hwindows := windows_of_connect hdiscovery hsemaphore h
    (fun addr region => region.MessageAt (addr.toNat - dramBase))
    fun hwindow addr region v v' hmap => by
      rcases Soc.mapMemory_ok hmap with ⟨hkind, hin⟩
      exact ⟨config.areaWindow, hkind, hwindow, hin⟩
  exact ⟨⟨hwindows.1.1, fun channel => hwindows.2.2 channel channel.isLt⟩, hwindows.1.2⟩

/-- A chip whose firmware has started lets a mailbox be connected. -/
theorem exists_connect_booted :
    ∃ mb w, connect Soc.platform .standard ⟨Soc.booted, []⟩ = .ok mb w := by
  have hends : (match connect Soc.platform .standard ⟨Soc.booted, []⟩ with
      | .ok _ _ => true
      | .error _ _ => false) = true := by
    decide +kernel
  cases hconnect : connect Soc.platform .standard ⟨Soc.booted, []⟩ with
  | ok mb w => exact ⟨mb, w, rfl⟩
  | error e w =>
      rw [hconnect] at hends
      cases hends

end Mailbox

end BpmpMailbox
