import BpmpMailbox.Proofs.Ends
import BpmpMailbox.Proofs.Effects.Mapping

/-!
# Regions in custody

`connect` takes regions one by one and may have to stop after any of them, and
what it owns at that point is different each time: nothing, the discovery
block, both blocks, both and some of the windows. So the question what a
bring-up does is asked for a property that depends on the regions held.

`Custody` says what such a property has to survive: one condition for each kind
of call that a bring-up makes, and none about the order in which it makes them.
Given these, the property follows the bring-up through each of its exits. It
comes out for the regions of the mailbox when there is one, and for no regions
when the bring-up is refused; the one fault there is comes from a window that
reaches past the address range. A property that does not look at the regions
is simply maintained, so this covers what a bring-up leaves alone as well.

## Main definitions

* `Mailbox.regions`: The regions that a mailbox holds.
* `Event.Within`: An event gives no region back, and touches some regions only.
* `Custody`: What a property of the regions held has to survive.

## Theorems

* `Custody.discoverAreas_ends`, `Custody.mapAreas_ends`: The two halves of the handshake.
* `Custody.connect_ends`: The bring-up, whatever comes of it.
* `Custody.disconnect_ends`: A mailbox gives back all it holds.
-/

namespace BpmpMailbox

/-- The regions that a mailbox holds. -/
def Mailbox.regions (mb : Mailbox) : List Region := mb.semaphoreRegion :: mb.areas.windows

/-- The event gives no region back, and if it is an access, then to one of some regions. -/
def Event.Within (mine : Region → Prop) : Event → Prop
  | .call (.access region _) => mine region
  | .call (.unmap _) => False
  | _ => True

theorem Event.Within.mono {mine mine' : Region → Prop} (hle : ∀ region, mine region → mine' region)
    {e : Event} (h : e.Within mine) : e.Within mine' := by
  cases e with
  | log r => trivial
  | handled handler channel outcome => trivial
  | call c =>
      cases c with
      | access region a => exact hle region h
      | unmap region => exact h.elim
      | mapBlock | mapMemory | ring | register | runningCore => trivial

/-- Giving a region back does not stop, so what is known apart from the chip remains. -/
theorem Soc.unmap_keeps (p : Prop) (region : Region) {stop : Stop → World Soc → Prop} :
    Ends (fun _ => p) (Soc.platform.unmap region) (fun _ _ => p) stop := by
  intro w hp
  rw [Soc.platform_unmap]
  exact hp

/-- A property of the chip and of the regions held that survives every call of
    a bring-up. -/
structure Custody (P : List Region → World Soc → Prop) : Prop where
  perm : ∀ {held held' : List Region} {w : World Soc}, held.Perm held' → P held w → P held' w
  noted : ∀ {held : List Region} {w : World Soc} (e : Event), e.Within (· ∈ held) →
    P held w → P held (w.moved w.hardware [e])
  asked : ∀ {held : List Region} {w : World Soc} (value : Word), P held w →
    P held (w.moved (w.hardware.discoveryWrite triggerAddress value) [])
  counted : ∀ {held : List Region} {w : World Soc}, P held w →
    P held (w.moved w.hardware.counted [])
  handedOut : ∀ {held : List Region} {w : World Soc} (kind : RegionKind), P held w →
    P (⟨kind, w.hardware.handouts⟩ :: held) (w.moved w.hardware.handedOut [])
  takenBack : ∀ {held : List Region} {w : World Soc} (region : Region), P (region :: held) w →
    P held (w.moved w.hardware.takenBack [.call (.unmap region)])

/-- A stop of a bring-up: refused for a reason, or a fault because the window
    reaches past the address range. -/
def Stopped (reason : Refusal → Prop) (P : World Soc → Prop) (window : Nat) (e : Stop)
    (w : World Soc) : Prop :=
  (∃ r, e = .refused r ∧ reason r) ∧ P w ∨ (∃ f, e = .fault f) ∧ addressLimit < 0x100000000 + window

namespace Custody

/-- Two properties survive together. -/
theorem and {P Q : List Region → World Soc → Prop} (hP : Custody P) (hQ : Custody Q) :
    Custody fun held w => P held w ∧ Q held w where
  perm hp hw := ⟨hP.perm hp hw.1, hQ.perm hp hw.2⟩
  noted e he hw := ⟨hP.noted e he hw.1, hQ.noted e he hw.2⟩
  asked value hw := ⟨hP.asked value hw.1, hQ.asked value hw.2⟩
  counted hw := ⟨hP.counted hw.1, hQ.counted hw.2⟩
  handedOut kind hw := ⟨hP.handedOut kind hw.1, hQ.handedOut kind hw.2⟩
  takenBack region hw := ⟨hP.takenBack region hw.1, hQ.takenBack region hw.2⟩

/-- The number of regions handed out does not go down. -/
theorem le_handouts (count : Nat) : Custody fun _ w => count ≤ w.hardware.handouts where
  perm _ hw := hw
  noted _ _ hw := hw
  asked value hw := by
    rw [World.moved_hardware, Soc.discoveryWrite]
    split <;> exact hw
  counted hw := hw
  handedOut _ hw := Nat.le_succ_of_le hw
  takenBack _ hw := hw

variable {P : List Region → World Soc → Prop} (h : Custody P) {held : List Region}

include h

theorem log_ends (r : LogRecord) : Ends (P held) (log r) (fun _ => P held) Never :=
  Ends.note fun _ hw => h.noted _ trivial hw

theorem mapBlock_ends (index : Nat) :
    Ends (P held) (Soc.platform.mapBlock index)
      (fun region? w => match region? with
        | some region => region.IsBlock ∧ P (region :: held) w
        | none => P held w) Never := by
  intro w hw
  have hnoted := h.noted (.call (.mapBlock index)) trivial hw
  rw [Soc.platform_mapBlock]
  cases hres : w.hardware.resource? index with
  | none => exact hnoted
  | some kind =>
      have hout := h.handedOut kind hnoted
      rw [World.moved_moved, List.append_nil] at hout
      exact ⟨Soc.isBlock_of_resource hres, hout⟩

/-- A mapping of memory stops only when its end does not fit an address. -/
theorem mapMemory_ends (phys size : Nat) :
    Ends (P held) (Soc.platform.mapMemory phys size)
      (fun region? w => match region? with
        | some region => P (region :: held) w
        | none => P held w)
      (fun e _ => (∃ f, e = .fault f) ∧ addressLimit ≤ phys + size) := by
  intro w hw
  have hnoted := h.counted (h.noted (.call (.mapMemory phys size)) trivial hw)
  rw [World.moved_moved, List.append_nil] at hnoted
  rw [Soc.platform_mapMemory]
  split_ifs with hfailing hbelow hlimit hin
  · exact hnoted
  · exact hnoted
  · exact ⟨⟨_, rfl⟩, hlimit⟩
  · have hout := h.handedOut (.dram (phys - dramBase) size) hnoted
    rw [World.moved_moved, List.append_nil] at hout
    exact hout
  · exact hnoted

/-- Afterwards the region has been given back, and the journal says so. -/
theorem unmap_ends (region : Region) :
    Ends (P (region :: held)) (Soc.platform.unmap region)
      (fun _ w => P held w ∧ .call (.unmap region) ∈ w.journal) Never := by
  intro w hw
  rw [Soc.platform_unmap]
  exact ⟨h.takenBack region hw, List.mem_append_right _ List.mem_cons_self⟩

theorem unmap_all_ends (regions : List Region) :
    Ends (P (regions ++ held)) (regions.forM Soc.platform.unmap) (fun _ => P held) Never :=
  Ends.forM (I := fun regions => P (regions ++ held))
    (fun region _ => (h.unmap_ends region).mono (fun _ hw => hw) (fun _ _ hw => hw.1)
      fun _ _ hw => hw) regions

section

variable {region : Region} (hmem : region ∈ held) (hr : region.IsBlock)

include hmem hr

theorem read_ends (addr : Nat) :
    Ends (P held) ((Soc.platform.bus region).read addr) (fun _ => P held) Never := by
  intro w hw
  rcases Region.block_read_run hr addr w with ⟨value, hread⟩
  rw [hread]
  exact h.noted (.call (.access region (.read addr))) hmem hw

theorem trigger_ends (value : Word) :
    Ends (P held) ((Soc.platform.bus region).write triggerAddress value) (fun _ => P held)
      Never := by
  intro w hw
  have hnoted := h.noted (.call (.access region (.write triggerAddress value))) hmem hw
  rcases Region.trigger_write_run hr value w with hwrite | hwrite <;> rw [hwrite]
  · have hasked := h.asked value hnoted
    rw [World.moved_moved, List.append_nil] at hasked
    exact hasked
  · have hlogged := h.noted (.log (.readOnlyWrite value triggerAddress)) trivial hnoted
    rw [World.moved_moved] at hlogged
    exact hlogged

theorem channelAddress_ends {channel : Nat} (hlt : channel < channelCount) :
    Ends (P held) (channelAddress (Soc.platform.bus region) channel) (fun _ => P held) Never := by
  refine (h.trigger_ends hmem hr _).bind fun _ => Ends.bind (M := fun _ => P held) ?_ fun place =>
    h.read_ends hmem hr place
  rw [resultAddress_ok hlt]
  exact Ends.pure fun _ hw => hw

/-- The search for the areas finds one for each channel, or is refused because
    one has none. -/
theorem discoverAreas_ends : ∀ channels : List Channel, (∀ c ∈ channels, c.index < channelCount) →
    Ends (P held) (discoverAreas (Soc.platform.bus region) channels)
      (fun areas w => areas.length = channels.length ∧ P held w)
      (fun e w => (∃ channel, e = .refused (.noArea channel)) ∧ P held w) := by
  intro channels
  induction channels with
  | nil => exact fun _ => Ends.pure fun _ hw => ⟨rfl, hw⟩
  | cons channel channels ih =>
      intro hin
      have haddr := h.channelAddress_ends hmem hr (hin channel List.mem_cons_self)
      refine Ends.bind haddr.of_never fun addr => Ends.ite (fun _ => ?_) fun _ => ?_
      · exact Ends.bind (h.log_ends _).of_never fun _ => Ends.refuse fun _ hw => ⟨⟨_, rfl⟩, hw⟩
      · refine (ih fun c hc => hin c (List.mem_cons_of_mem _ hc)).bind fun areas => ?_
        exact Ends.pure fun _ hw => ⟨congrArg (· + 1) hw.1, hw.2⟩

end

/-- The windows of all channels are handed out, or none of them is kept. -/
theorem mapAreas_ends {window : Nat} : ∀ (areas : List (Channel × Word)) (mapped : List Region),
    Ends (P (mapped ++ held)) (mapAreas Soc.platform.toMapping window mapped areas)
      (fun windows w => windows.length = mapped.length + areas.length ∧ P (windows ++ held) w)
      (fun e w => (∃ channel, e = .refused (.areaNotMapped channel)) ∧ P held w ∨
        (∃ f, e = .fault f) ∧ addressLimit < 0x100000000 + window) := by
  -- By induction on the areas still to be mapped; those mapped so far are in custody.
  intro areas
  induction areas with
  | nil => exact fun mapped => Ends.pure fun _ hw => ⟨rfl, hw⟩
  | cons area areas ih =>
      intro mapped
      rcases area with ⟨channel, addr⟩
      refine Ends.bind ((h.mapMemory_ends addr.toNat window).mono (fun _ hw => hw)
        (fun _ _ hw => hw) fun e w he => Or.inr ⟨he.1, ?_⟩) fun region? => ?_
      · have haddr := addr.isLt
        omega
      · cases region? with
        | some region =>
            refine Ends.bind (h.log_ends _).of_never fun _ => ?_
            have hrest := ih (mapped ++ [region])
            refine hrest.mono (fun w hw => h.perm ?_ hw) (fun windows w hw => ⟨?_, hw.2⟩)
              fun _ _ hw => hw
            · rw [List.append_assoc, List.singleton_append]
              exact List.perm_middle.symm
            · rw [hw.1, List.length_append, List.length_singleton, List.length_cons]
              omega
        | none =>
            refine Ends.bind (h.log_ends _).of_never fun _ => ?_
            refine Ends.bind (h.unmap_all_ends mapped).of_never fun _ => ?_
            exact Ends.refuse fun _ hw => Or.inl ⟨⟨_, rfl⟩, hw⟩

section

variable {discovery : Region} (hd : discovery ∈ held) (hdiscovery : discovery.IsBlock)

include hd hdiscovery

/-- The handshake once the word was found not to be zero. -/
theorem areas_ends (window : Nat) :
    Ends (P held)
      (do
        let areas ← discoverAreas (Soc.platform.bus discovery) Channel.all
        let windows ← mapAreas Soc.platform.toMapping window [] areas
        pure (⟨windows⟩ : AreaTable))
      (fun areas w => areas.windows.length = channelCount ∧ P (areas.windows ++ held) w)
      (Stopped (· ≠ .notReady) (P held) window) := by
  have hall : Channel.all.length = channelCount := by decide
  have hfound := h.discoverAreas_ends hd hdiscovery Channel.all Channel.index_lt_of_mem_all
  have hmapped : ∀ areas, Ends (P held) (mapAreas Soc.platform.toMapping window [] areas) _ _ :=
    fun areas => h.mapAreas_ends areas []
  refine Ends.bind (hfound.mono (fun _ hw => hw) (fun _ _ hw => hw) ?_) fun areas w hw => ?_
  · rintro _ w ⟨⟨channel, rfl⟩, hw⟩
    exact Or.inl ⟨⟨_, rfl, nofun⟩, hw⟩
  · refine Ends.bind ((hmapped areas).mono (fun _ hw => hw) (fun _ _ hw => hw) ?_)
      (fun windows => Ends.pure fun v hv => ⟨?_, hv.2⟩) w hw.2
    · rintro _ v (⟨⟨channel, rfl⟩, hv⟩ | hv)
      · exact Or.inl ⟨⟨_, rfl, nofun⟩, hv⟩
      · exact Or.inr hv
    · rw [hv.1, hw.1, hall]
      rfl

/-- An attempted handshake leaves a refusal as its result, so only the fault
    remains to stop it. -/
theorem attempt_ends {semaphore : Region} (hs : semaphore ∈ held)
    (hsemaphore : semaphore.IsBlock) (window : Nat) :
    Ends (P held)
      (attempt (handshake Soc.platform.toMapping (Soc.platform.bus discovery)
        ⟨Soc.platform.bus semaphore⟩ window))
      (fun found w => match found with
        | .ok areas => areas.windows.length = channelCount ∧ P (areas.windows ++ held) w
        | .error _ => P held w)
      (fun e _ => (∃ f, e = .fault f) ∧ addressLimit < 0x100000000 + window) := by
  have hhandshake : Ends (P held)
      (handshake Soc.platform.toMapping (Soc.platform.bus discovery)
        ⟨Soc.platform.bus semaphore⟩ window)
      (fun areas w => areas.windows.length = channelCount ∧ P (areas.windows ++ held) w)
      (Stopped (fun _ => True) (P held) window) := by
    refine Ends.bind (h.read_ends hs hsemaphore statusPort).of_never fun word =>
      Ends.ite (fun _ => ?_) fun _ => ?_
    · refine Ends.bind (h.log_ends _).of_never fun _ => Ends.refuse fun _ hw => ?_
      exact Or.inl ⟨⟨_, rfl, trivial⟩, hw⟩
    · refine (h.areas_ends hd hdiscovery window).mono (fun _ hw => hw) (fun _ _ hw => hw) ?_
      rintro e w (⟨⟨r, he, -⟩, hw⟩ | hw)
      · exact Or.inl ⟨⟨r, he, trivial⟩, hw⟩
      · exact Or.inr hw
  refine Ends.attempt hhandshake ?_ ?_
  · rintro e w (⟨-, hw⟩ | ⟨⟨f, hf⟩, -⟩)
    · exact hw
    · cases hf
  · rintro f w (⟨⟨r, hr, -⟩, -⟩ | hw)
    · cases hr
    · exact hw

end

end Custody

/-- What `connect` does once it has the discovery block. -/
theorem Custody.bring_up_ends {P : List Region → World Soc → Prop} (h : Custody P)
    (config : Configuration) {discovery : Region} (hdiscovery : discovery.IsBlock) :
    Ends (P [discovery])
      (do
        let some semaphore ← Soc.platform.mapBlock config.semaphoreBlock
          | do
            Soc.platform.unmap discovery
            refuse (.noDevice config.semaphoreBlock)
        let found ← attempt (handshake Soc.platform.toMapping (Soc.platform.bus discovery)
          ⟨Soc.platform.bus semaphore⟩ config.areaWindow)
        Soc.platform.unmap discovery
        match found with
        | .ok areas =>
          log (.connected areas.windows.length config.doorbellLine)
          pure (⟨semaphore, areas, config⟩ : Mailbox)
        | .error e =>
          Soc.platform.unmap semaphore
          refuse e)
      (fun mb w => mb.regions.length = channelCount + 1 ∧ P mb.regions w ∧
        .call (.unmap discovery) ∈ w.journal)
      (Stopped (fun _ => True) (P []) config.areaWindow) := by
  refine Ends.bind (h.mapBlock_ends config.semaphoreBlock).of_never fun semaphore? => ?_
  cases semaphore? with
  | none =>
      refine Ends.bind (h.unmap_ends discovery).of_never fun _ => Ends.refuse fun _ hw => ?_
      exact Or.inl ⟨⟨_, rfl, trivial⟩, hw.1⟩
  | some semaphore =>
      refine Ends.assume fun hsemaphore => ?_
      have hfound : Ends (P [semaphore, discovery]) _ _ _ :=
        h.attempt_ends (List.mem_cons_of_mem semaphore List.mem_cons_self) hdiscovery
          List.mem_cons_self hsemaphore config.areaWindow
      refine Ends.bind (hfound.mono (fun _ hw => hw) (fun _ _ hw => hw) fun _ _ hw => Or.inr hw)
        fun found => ?_
      cases found with
      | ok areas =>
          -- The windows and the semaphore stay when the discovery block goes.
          have hperm : (areas.windows ++ [semaphore, discovery]).Perm
              (discovery :: semaphore :: areas.windows) :=
            List.perm_append_comm.trans (List.Perm.swap ..)
          refine Ends.assume fun hlength => Ends.of_imp (fun _ hw => h.perm hperm hw) ?_
          refine Ends.bind (h.unmap_ends discovery).of_never fun _ => ?_
          refine Ends.bind (M := fun _ w => P (semaphore :: areas.windows) w ∧
            .call (.unmap discovery) ∈ w.journal) (Ends.log fun w hw => ?_) fun _ =>
              Ends.pure fun w hw => ⟨congrArg (· + 1) hlength, hw⟩
          exact ⟨h.noted _ trivial hw.1, List.mem_append_left _ hw.2⟩
      | error e =>
          refine Ends.of_imp (fun _ hw => h.perm (List.Perm.swap ..) hw) ?_
          refine Ends.bind (h.unmap_ends discovery).of_never fun _ => ?_
          refine Ends.of_imp (fun _ hw => hw.1) ?_
          refine Ends.bind (h.unmap_ends semaphore).of_never fun _ => Ends.refuse fun _ hw => ?_
          exact Or.inl ⟨⟨_, rfl, trivial⟩, hw.1⟩

/-- The bring-up, whatever comes of it: a mailbox that holds thirteen regions,
    or a stop that leaves nothing held. The first region handed out is the
    discovery block, and with a mailbox it has been given back. -/
theorem Custody.connect_ends {P : List Region → World Soc → Prop} (h : Custody P)
    (config : Configuration) {w : World Soc} (hw : P [] w) :
    Ends (· = w) (Mailbox.connect Soc.platform config)
      (fun mb w' => mb.regions.length = channelCount + 1 ∧ P mb.regions w' ∧
        ∃ kind, w.hardware.resource? config.discoveryBlock = some kind ∧
          .call (.unmap ⟨kind, w.hardware.handouts⟩) ∈ w'.journal)
      (Stopped (fun _ => True) (P []) config.areaWindow) := by
  intro v hv
  subst hv
  unfold Mailbox.connect
  cases hcheck : config.check with
  | error r => exact Or.inl ⟨⟨r, rfl, trivial⟩, hw⟩
  | ok u =>
      have hfirst := Soc.platform_mapBlock config.discoveryBlock v
      have hnoted := h.noted (.call (.mapBlock config.discoveryBlock)) trivial hw
      cases hres : v.hardware.resource? config.discoveryBlock with
      | none =>
          simp only [hres] at hfirst
          simp only
          rw [bind_ok hfirst]
          exact Or.inl ⟨⟨_, rfl, trivial⟩, hnoted⟩
      | some kind =>
          simp only [hres] at hfirst
          simp only
          rw [bind_ok hfirst]
          have hout := h.handedOut kind hnoted
          rw [World.moved_moved, List.append_nil] at hout
          refine (h.bring_up_ends config (Soc.isBlock_of_resource hres)).mono (fun _ hv => hv)
            (fun mb w' hw' => ?_) (fun _ _ hw' => hw') _ hout
          exact ⟨hw'.1, hw'.2.1, kind, rfl, hw'.2.2⟩

/-- A mailbox that is taken down gives back all it holds. -/
theorem Custody.disconnect_ends {P : List Region → World Soc → Prop} (h : Custody P)
    (mb : Mailbox) :
    Ends (P mb.regions) (mb.disconnect Soc.platform) (fun _ => P []) Never := by
  have hperm : mb.regions.Perm (mb.areas.windows ++ [mb.semaphoreRegion]) :=
    (List.perm_append_singleton _ _).symm
  refine Ends.of_imp (fun w hw => h.perm hperm hw) ?_
  refine Ends.bind (h.unmap_all_ends mb.areas.windows) fun _ => ?_
  refine Ends.bind (h.unmap_ends mb.semaphoreRegion) fun _ => ?_
  exact Ends.of_imp (fun _ hw => hw.1) (h.log_ends _)

end BpmpMailbox
