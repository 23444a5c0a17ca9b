import Mathlib.Algebra.Group.Nat.Defs
import BpmpMailbox.Proofs.Effects.Mapping
import BpmpMailbox.Proofs.Effects.Semaphore

/-!
# The loops of a bring-up

Between the check of its configuration and its answer a bring-up does four
kinds of things, each of them a number of times: it asks channels for their
areas, asks for mappings of memory, and has regions handed out and given back.
What it has done to the chip by any time is told by these four numbers alone.
`Soc.worked` is the chip after so much work, and `World.Called` says that it
was reached by certain calls.

The two loops are followed by induction on the number of channels that they
have been through. `discoverAreas_asked` and `mapAreas_mapped` say where a loop
stands then: it has the other channels still to do, and has made the calls for
those behind it. The ends of a loop are read off from there, because what it
does at the next channel is one step.

## Main definitions

* `World.Called`: A world that was left after some calls.
* `Soc.worked`: The chip after so much of a bring-up.
* `Soc.Unmappable`: The area of a channel cannot be mapped when it is its turn.
* `askCalls`, `mapCall`: The calls for one channel.

## Theorems

* `discoverAreas_asked`, `mapAreas_mapped`: Where the loops stand after so many channels.
* `discoverAreas_noArea`, `discoverAreas_found`: The ends of the search.
* `mapAreas_unmappable`, `mapAreas_all`: The ends of the mapping.
* `handshake_unpublished`, `handshake_noArea`, `handshake_areaNotMapped`, `handshake_connected`:
  The four ends of the handshake.
-/

namespace BpmpMailbox

namespace Soc

/-- The area of a channel lies outside the memory, or its mapping is the one
    that is made to fail when the channels before it were mapped. -/
def Unmappable (s : Soc) (window channel : Nat) : Prop :=
  (s.published channel).toNat < dramBase ∨
    dramBase + dramSize < (s.published channel).toNat + window ∨
      s.faults.failingMapping = some (s.memoryMappings + channel)

instance (s : Soc) (window channel : Nat) : Decidable (s.Unmappable window channel) :=
  inferInstanceAs (Decidable (_ ∨ _ ∨ _))

/-- The discovery block, as it is handed out first. -/
def discoveryRegion (s : Soc) : Region := ⟨.discovery, s.handouts⟩

/-- The semaphore block, as it is handed out next. -/
def semaphoreRegion (s : Soc) : Region := ⟨.semaphore, s.handouts + 1⟩

/-- The window of a channel, as it is handed out after those of the channels before it. -/
def windowRegion (s : Soc) (window channel : Nat) : Region :=
  ⟨.dram (s.placeOf channel) window, s.handouts + (2 + channel)⟩

end Soc

/-- The calls that ask for the area of a channel. -/
def askCalls (discovery : Region) (channel : Nat) : List HardwareCall :=
  [.access discovery (.write triggerAddress (discoveryCommand channel)),
    .access discovery (.read (resultBase + channel * 4))]

/-- The call that maps the area of a channel. -/
def mapCall (s : Soc) (window channel : Nat) : HardwareCall :=
  .mapMemory (s.published channel).toNat window

theorem Event.calls_map_call (calls : List HardwareCall) :
    Event.calls (calls.map .call) = calls := by
  rw [Event.calls, List.filterMap_map]
  exact List.filterMap_some

section Called

/-- The world was left with this chip, after these calls. -/
def World.Called (w w' : World Soc) (s : Soc) (calls : List HardwareCall) : Prop :=
  ∃ events, w' = w.moved s events ∧ Event.calls events = calls

namespace World.Called

variable {w w' : World Soc} {s s' : Soc} {calls calls' : List HardwareCall}

theorem hardware_eq (h : w.Called w' s calls) : w'.hardware = s := by
  rcases h with ⟨events, rfl, -⟩
  rfl

theorem refl (w : World Soc) : w.Called w w.hardware [] :=
  ⟨[], by rw [World.moved, List.append_nil], rfl⟩

theorem of_eq (h : w.Called w' s calls) (heq : calls = calls') : w.Called w' s calls' := heq ▸ h

/-- One more effect. -/
theorem moved (h : w.Called w' s calls) (s' : Soc) (events : List Event) :
    w.Called (w'.moved s' events) s' (calls ++ Event.calls events) := by
  rcases h with ⟨before, rfl, rfl⟩
  refine ⟨before ++ events, World.moved_moved _ _ _ _ _, ?_⟩
  rw [Event.calls, List.filterMap_append]
  rfl

/-- A log record is no call. -/
theorem log (h : w.Called w' s calls) (r : LogRecord) :
    w.Called (w'.moved w'.hardware [.log r]) s calls := by
  have hnone : Event.calls [.log r] = [] := rfl
  have hmoved := h.moved s [.log r]
  rw [h.hardware_eq]
  rwa [hnone, List.append_nil] at hmoved

end World.Called

end Called

namespace Soc

/-- The chip after a bring-up has asked so many channels for their areas and
    asked for so many mappings of memory, and after so many regions were handed
    out and given back. -/
def worked (s : Soc) (asked mapped out back : Nat) : Soc :=
  { s with
    trigger := if asked = 0 then s.trigger else discoveryCommand (asked - 1)
    discoveries := s.discoveries + asked
    memoryMappings := s.memoryMappings + mapped
    liveRegions := s.liveRegions + BitVec.ofNat 64 out - BitVec.ofNat 64 back
    handouts := s.handouts + out }

variable (s : Soc) (asked mapped out back : Nat)

theorem worked_zero : s.worked 0 0 0 0 = s := by
  rw [worked, BitVec.add_zero, BitVec.sub_zero]
  rfl

/-- Every discovery command is counted as one. -/
theorem asked_worked {asked : Nat} (h : asked < channelCount) :
    (s.worked asked mapped out back).asked asked = s.worked (asked + 1) mapped out back := by
  have hcommand : ∀ channel : Fin channelCount,
      discoveryCommand channel &&& 0xffff#32 = addressCommand := by decide
  simp only [Soc.asked, worked, discoveryWrite, if_pos, hcommand ⟨asked, h⟩]
  rfl

theorem counted_worked :
    (s.worked asked mapped out back).counted = s.worked asked (mapped + 1) out back := rfl

theorem handedOut_worked :
    (s.worked asked mapped out back).handedOut = s.worked asked mapped (out + 1) back := by
  have hlive : s.liveRegions + BitVec.ofNat 64 out - BitVec.ofNat 64 back + 1#64 =
      s.liveRegions + BitVec.ofNat 64 (out + 1) - BitVec.ofNat 64 back := by bv_omega
  simp only [worked, handedOut, hlive, Nat.add_assoc]

theorem takenBack_worked :
    (s.worked asked mapped out back).takenBack = s.worked asked mapped out (back + 1) := by
  have hlive : s.liveRegions + BitVec.ofNat 64 out - BitVec.ofNat 64 back - 1#64 =
      s.liveRegions + BitVec.ofNat 64 out - BitVec.ofNat 64 (back + 1) := by bv_omega
  simp only [worked, takenBack, hlive]

end Soc

section Loops

variable {w₀ w : World Soc} {s : Soc} {asked mapped out back : Nat} {calls : List HardwareCall}

/-- Where a bring-up begins. -/
theorem World.Called.start (w : World Soc) : w.Called w (w.hardware.worked 0 0 0 0) [] := by
  rw [Soc.worked_zero]
  exact World.Called.refl w

/-- A register block is handed out. -/
theorem World.Called.mapBlock (h : w₀.Called w (s.worked asked mapped out back) calls)
    {index : Nat} {kind : RegionKind} (hres : s.resource? index = some kind) :
    ∃ w', w₀.Called w' (s.worked asked mapped (out + 1) back) (calls ++ [.mapBlock index]) ∧
      Soc.platform.mapBlock index w = .ok (some ⟨kind, s.handouts + out⟩) w' := by
  have hthere : (s.worked asked mapped out back).resource? index = some kind := hres
  have hmoved := h.moved (s.worked asked mapped (out + 1) back) [.call (.mapBlock index)]
  refine ⟨_, hmoved, ?_⟩
  rw [Soc.mapBlock_present (by rwa [h.hardware_eq]), h.hardware_eq, Soc.handedOut_worked]
  rfl

/-- A register block is missing. -/
theorem World.Called.mapBlock_missing (h : w₀.Called w (s.worked asked mapped out back) calls)
    {index : Nat} (hres : s.resource? index = none) :
    ∃ w', w₀.Called w' (s.worked asked mapped out back) (calls ++ [.mapBlock index]) ∧
      Soc.platform.mapBlock index w = .ok none w' := by
  have hmissing : (s.worked asked mapped out back).resource? index = none := hres
  have hmoved := h.moved (s.worked asked mapped out back) [.call (.mapBlock index)]
  refine ⟨_, hmoved, ?_⟩
  rw [Soc.platform_mapBlock, h.hardware_eq, hmissing]

/-- A region is given back. -/
theorem World.Called.unmap (h : w₀.Called w (s.worked asked mapped out back) calls)
    (region : Region) :
    ∃ w', w₀.Called w' (s.worked asked mapped out (back + 1)) (calls ++ [.unmap region]) ∧
      Soc.platform.unmap region w = .ok () w' := by
  have hmoved := h.moved (s.worked asked mapped out (back + 1)) [.call (.unmap region)]
  refine ⟨_, hmoved, ?_⟩
  rw [Soc.platform_unmap, h.hardware_eq, Soc.takenBack_worked]

/-- Regions are given back one after the other. -/
theorem World.Called.unmap_all : ∀ (regions : List Region) {w : World Soc} {back : Nat}
    {calls : List HardwareCall}, w₀.Called w (s.worked asked mapped out back) calls →
      ∃ w', w₀.Called w' (s.worked asked mapped out (back + regions.length))
          (calls ++ regions.map .unmap) ∧
        regions.forM Soc.platform.unmap w = .ok () w' := by
  intro regions
  induction regions with
  | nil =>
      intro w back calls h
      exact ⟨w, h.of_eq (List.append_nil _).symm, rfl⟩
  | cons region regions ih =>
      intro w back calls h
      rcases h.unmap region with ⟨v, hcalled, hrun⟩
      rcases ih hcalled with ⟨w', hcalled', hrun'⟩
      refine ⟨w', ?_, (bind_ok hrun).trans hrun'⟩
      rw [List.length_cons, ← Nat.add_assoc, Nat.add_right_comm, List.map_cons]
      exact hcalled'.of_eq (by rw [List.append_assoc, List.singleton_append])

/-- The channels with the areas published for them. -/
def Soc.publishedAreas (s : Soc) : List (Channel × Word) :=
  Channel.all.map fun c => (c, s.published c.index)

theorem Soc.take_publishedAreas (s : Soc) {c : Channel}
    (htake : Channel.all.take (c.index + 1) = Channel.all.take c.index ++ [c]) :
    s.publishedAreas.take (c.index + 1) =
      s.publishedAreas.take c.index ++ [(c, s.published c.index)] := by
  simp only [publishedAreas, ← List.map_take, htake, List.map_append, List.map_singleton]

/-- The channels still to come begin with the one whose number was reached. -/
theorem Channel.drop_all {count : Nat} (h : count < channelCount) :
    ∃ c : Channel, c.index = count ∧ all.drop count = c :: all.drop (count + 1) ∧
      all.take (count + 1) = all.take count ++ [c] := by
  have hlt : count < all.length := h
  have hindex := index_of_getElem?_all ⟨count, h⟩
  rw [List.getElem?_eq_getElem hlt, Option.map_some, Option.some.injEq] at hindex
  exact ⟨all[count], hindex, List.drop_eq_getElem_cons hlt,
    (List.take_append_getElem hlt).symm⟩

section Search

variable {discovery : Region} (hr : discovery.kind = .discovery)

include hr

/-- After the first channels were asked, the next one is. -/
theorem World.Called.ask (hlt : asked < channelCount)
    (h : w₀.Called w (s.worked asked mapped out back)
      (calls ++ (List.range asked).flatMap (askCalls discovery))) :
    ∃ w', w₀.Called w' (s.worked (asked + 1) mapped out back)
        (calls ++ (List.range (asked + 1)).flatMap (askCalls discovery)) ∧
      channelAddress (Soc.platform.bus discovery) asked w = .ok (s.published asked) w' := by
  have hmoved := h.moved (s.worked (asked + 1) mapped out back)
    ((askCalls discovery asked).map .call)
  have hrun := channelAddress_run hr hlt w
  rw [h.hardware_eq, Soc.asked_worked _ _ _ _ hlt] at hrun
  refine ⟨_, hmoved.of_eq ?_, hrun⟩
  rw [Event.calls_map_call, List.append_assoc, List.range_succ, List.flatMap_append,
    List.flatMap_singleton]

/-- As long as every channel has an area, the search has been through the
    channels asked and has the others still to ask. -/
theorem discoverAreas_asked (h : w₀.Called w (s.worked 0 mapped out back) calls) :
    ∀ {count : Nat}, count ≤ channelCount → (∀ channel < count, s.published channel ≠ 0#32) →
      ∃ w', w₀.Called w' (s.worked count mapped out back)
          (calls ++ (List.range count).flatMap (askCalls discovery)) ∧
        discoverAreas (Soc.platform.bus discovery) Channel.all w =
          (do
            let rest ← discoverAreas (Soc.platform.bus discovery) (Channel.all.drop count)
            pure (s.publishedAreas.take count ++ rest)) w' := by
  intro count
  induction count with
  | zero =>
      intro _ _
      refine ⟨w, h.of_eq (List.append_nil _).symm, ?_⟩
      simp only [List.drop_zero, List.take_zero, List.nil_append, bind_pure]
  | succ count ih =>
      intro hlt hfound
      rcases ih (Nat.le_of_lt hlt) (fun channel hc => hfound channel (Nat.lt_succ_of_lt hc)) with
        ⟨v, hcalled, hrun⟩
      rcases Channel.drop_all hlt with ⟨c, rfl, hdrop, htake⟩
      rcases hcalled.ask hr hlt with ⟨w', hcalled', hask⟩
      -- The channel has an area, and joins those behind.
      have hstep : discoverAreas (Soc.platform.bus discovery)
          (c :: Channel.all.drop (c.index + 1)) v =
          (do
            let rest ← discoverAreas (Soc.platform.bus discovery) (Channel.all.drop (c.index + 1))
            pure ((c, s.published c.index) :: rest)) w' := by
        rw [discoverAreas, bind_ok hask, if_neg (hfound c.index (Nat.lt_succ_self _))]
      refine ⟨w', hcalled', ?_⟩
      rw [hrun, hdrop, bind_congr_run hstep, bind_assoc, Soc.take_publishedAreas s htake]
      simp only [pure_bind, List.append_assoc, List.singleton_append]

/-- The search stops at the first channel without an area. -/
theorem discoverAreas_noArea (h : w₀.Called w (s.worked 0 mapped out back) calls) {channel : Nat}
    (hlt : channel < channelCount) (hzero : s.published channel = 0#32)
    (hfound : ∀ other < channel, s.published other ≠ 0#32) :
    ∃ w', w₀.Called w' (s.worked (channel + 1) mapped out back)
        (calls ++ (List.range (channel + 1)).flatMap (askCalls discovery)) ∧
      discoverAreas (Soc.platform.bus discovery) Channel.all w =
        .error (.refused (.noArea channel)) w' := by
  rcases discoverAreas_asked hr h (Nat.le_of_lt hlt) hfound with ⟨v, hcalled, hrun⟩
  rcases Channel.drop_all hlt with ⟨c, rfl, hdrop, -⟩
  rcases hcalled.ask hr hlt with ⟨w', hcalled', hask⟩
  refine ⟨_, hcalled'.log (.noAreaReported c.index), ?_⟩
  have hstep : discoverAreas (Soc.platform.bus discovery) (c :: Channel.all.drop (c.index + 1)) v =
      .error (.refused (.noArea c.index))
        (w'.moved w'.hardware [.log (.noAreaReported c.index)]) := by
    rw [discoverAreas, bind_ok hask, if_pos hzero, bind_ok (log_moved _ _), refuse_run]
  rw [hrun, hdrop, bind_error hstep]

/-- The search finds the published areas when every channel has one. -/
theorem discoverAreas_found (h : w₀.Called w (s.worked 0 mapped out back) calls)
    (hfound : ∀ channel < channelCount, s.published channel ≠ 0#32) :
    ∃ w', w₀.Called w' (s.worked channelCount mapped out back)
        (calls ++ (List.range channelCount).flatMap (askCalls discovery)) ∧
      discoverAreas (Soc.platform.bus discovery) Channel.all w = .ok s.publishedAreas w' := by
  rcases discoverAreas_asked hr h (Nat.le_refl _) hfound with ⟨w', hcalled, hrun⟩
  have hdrop : Channel.all.drop channelCount = [] := by decide
  have htake : s.publishedAreas.take channelCount = s.publishedAreas :=
    List.take_of_length_le (by rw [Soc.publishedAreas, List.length_map]; decide)
  refine ⟨w', hcalled, ?_⟩
  rw [hrun, hdrop, discoverAreas, pure_bind, htake, List.append_nil, pure_run]

end Search

section Map

variable {window : Nat} (hlimit : window < 2 ^ 63)

include hlimit

/-- After the windows of the channels before it, that of the next channel is
    handed out, or not. -/
theorem mapMemory_worked {count : Nat}
    (h : w₀.Called w (s.worked asked count (2 + count) back) calls) :
    Soc.platform.mapMemory (s.published count).toNat window w =
      if s.Unmappable window count then
        .ok none (w.moved (s.worked asked (count + 1) (2 + count) back)
          [.call (mapCall s window count)])
      else
        .ok (some (s.windowRegion window count))
          (w.moved (s.worked asked (count + 1) (2 + (count + 1)) back)
            [.call (mapCall s window count)]) := by
  have haddr := (s.published count).isLt
  have hnolimit : ¬ addressLimit ≤ (s.published count).toNat + window := by
    simp only [addressLimit]
    omega
  have hfaults : (s.worked asked count (2 + count) back).faults = s.faults := rfl
  have hmappings : (s.worked asked count (2 + count) back).memoryMappings =
      s.memoryMappings + count := rfl
  rw [Soc.platform_mapMemory, h.hardware_eq, if_neg hnolimit, Soc.counted_worked,
    Soc.handedOut_worked, hfaults, hmappings]
  by_cases hfailing : s.faults.failingMapping = some (s.memoryMappings + count)
  · have hno : s.Unmappable window count := Or.inr (Or.inr hfailing)
    rw [if_pos hfailing, if_pos hno]
    rfl
  · rw [if_neg hfailing]
    by_cases hbelow : (s.published count).toNat < dramBase
    · have hno : s.Unmappable window count := Or.inl hbelow
      rw [if_pos hbelow, if_pos hno]
      rfl
    · rw [if_neg hbelow]
      by_cases hin : (s.published count).toNat + window ≤ dramBase + dramSize
      · have hyes : ¬ s.Unmappable window count :=
          not_or.mpr ⟨hbelow, not_or.mpr ⟨Nat.not_lt.mpr hin, hfailing⟩⟩
        rw [if_pos hin, if_neg hyes]
        rfl
      · have hno : s.Unmappable window count := Or.inr (Or.inl (Nat.not_le.mp hin))
        rw [if_neg hin, if_pos hno]
        rfl

/-- As long as every area can be mapped, those of the channels behind are
    mapped, and the others are still to map. -/
theorem mapAreas_mapped (h : w₀.Called w (s.worked asked 0 2 back) calls) :
    ∀ {count : Nat}, count ≤ channelCount → (∀ channel < count, ¬ s.Unmappable window channel) →
      ∃ w', w₀.Called w' (s.worked asked count (2 + count) back)
          (calls ++ (List.range count).map (mapCall s window)) ∧
        mapAreas Soc.platform.toMapping window [] s.publishedAreas w =
          mapAreas Soc.platform.toMapping window
            ((List.range count).map (s.windowRegion window)) (s.publishedAreas.drop count) w' := by
  intro count
  induction count with
  | zero =>
      intro _ _
      exact ⟨w, h.of_eq (List.append_nil _).symm, rfl⟩
  | succ count ih =>
      intro hlt hmappable
      rcases ih (Nat.le_of_lt hlt) (fun channel hc => hmappable channel (Nat.lt_succ_of_lt hc)) with
        ⟨v, hcalled, hrun⟩
      rcases Channel.drop_all hlt with ⟨c, rfl, hdrop, -⟩
      have hmap := mapMemory_worked hlimit hcalled
      rw [if_neg (hmappable c.index (Nat.lt_succ_self _))] at hmap
      have hmoved := hcalled.moved (s.worked asked (c.index + 1) (2 + (c.index + 1)) back)
        [.call (mapCall s window c.index)]
      refine ⟨_, (hmoved.log (.areaMapped c (s.published c.index))).of_eq ?_, ?_⟩
      · rw [List.append_assoc, List.range_succ, List.map_append]
        rfl
      · rw [hrun, Soc.publishedAreas, ← List.map_drop, hdrop, List.map_cons, mapAreas, bind_ok hmap]
        simp only
        rw [bind_ok (log_moved _ _), List.range_succ, List.map_append]
        simp only [List.map_drop, List.map_singleton]

/-- The first area that cannot be mapped ends the mapping, and the windows
    mapped so far are given back. -/
theorem mapAreas_unmappable (h : w₀.Called w (s.worked asked 0 2 back) calls) {channel : Nat}
    (hlt : channel < channelCount) (hno : s.Unmappable window channel)
    (hmappable : ∀ other < channel, ¬ s.Unmappable window other) :
    ∃ w', w₀.Called w' (s.worked asked (channel + 1) (2 + channel) (back + channel))
        (calls ++ (List.range (channel + 1)).map (mapCall s window) ++
          ((List.range channel).map (s.windowRegion window)).map .unmap) ∧
      mapAreas Soc.platform.toMapping window [] s.publishedAreas w =
        .error (.refused (.areaNotMapped channel)) w' := by
  rcases mapAreas_mapped hlimit h (Nat.le_of_lt hlt) hmappable with ⟨v, hcalled, hrun⟩
  rcases Channel.drop_all hlt with ⟨c, rfl, hdrop, -⟩
  have hmap := mapMemory_worked hlimit hcalled
  rw [if_pos hno] at hmap
  have hmoved := (hcalled.moved (s.worked asked (c.index + 1) (2 + c.index) back)
    [.call (mapCall s window c.index)]).log (.areaNotMapped c.index (s.published c.index))
  rcases hmoved.unmap_all ((List.range c.index).map (s.windowRegion window)) with
    ⟨w', hcalled', hunmap⟩
  rw [List.length_map, List.length_range] at hcalled'
  refine ⟨w', hcalled'.of_eq ?_, ?_⟩
  · rw [List.append_assoc calls, List.range_succ, List.map_append]
    rfl
  · rw [hrun, Soc.publishedAreas, ← List.map_drop, hdrop, List.map_cons, mapAreas, bind_ok hmap]
    simp only
    rw [bind_ok (log_moved _ _), bind_ok hunmap, refuse_run]

/-- Every area is mapped when all of them can be. -/
theorem mapAreas_all (h : w₀.Called w (s.worked asked 0 2 back) calls)
    (hmappable : ∀ channel < channelCount, ¬ s.Unmappable window channel) :
    ∃ w', w₀.Called w' (s.worked asked channelCount (2 + channelCount) back)
        (calls ++ (List.range channelCount).map (mapCall s window)) ∧
      mapAreas Soc.platform.toMapping window [] s.publishedAreas w =
        .ok ((List.range channelCount).map (s.windowRegion window)) w' := by
  rcases mapAreas_mapped hlimit h (Nat.le_refl _) hmappable with ⟨w', hcalled, hrun⟩
  have hdrop : s.publishedAreas.drop channelCount = [] :=
    List.drop_eq_nil_of_le (by rw [Soc.publishedAreas, List.length_map]; decide)
  refine ⟨w', hcalled, ?_⟩
  rw [hrun, hdrop, mapAreas, pure_run]

end Map

section Handshake

variable {semaphore : Region} (hs : semaphore.kind = .semaphore)
  (h : w₀.Called w (s.worked 0 0 2 0) calls)

include hs h

/-- The word is read first, and the areas are searched for if there is one. -/
theorem handshake_read (discovery : Region) (window : Nat) :
    ∃ w', w₀.Called w' (s.worked 0 0 2 0) (calls ++ [.access semaphore (.read statusPort)]) ∧
      handshake Soc.platform.toMapping (Soc.platform.bus discovery)
          ⟨Soc.platform.bus semaphore⟩ window w =
        (if s.word = 0#32 then do
          log .handshakeMissing
          refuse .notReady
        else do
          let areas ← discoverAreas (Soc.platform.bus discovery) Channel.all
          let windows ← mapAreas Soc.platform.toMapping window [] areas
          pure (⟨windows⟩ : AreaTable)) w' := by
  have hmoved := h.moved (s.worked 0 0 2 0) [.call (.access semaphore (.read statusPort))]
  have hword : (s.worked 0 0 2 0).word = s.word := rfl
  refine ⟨_, hmoved, ?_⟩
  unfold handshake
  rw [bind_ok (Semaphore.status_run hs w), h.hardware_eq, hword]

variable {discovery : Region} {window : Nat}

theorem handshake_unpublished (hzero : s.word = 0#32) :
    ∃ w', w₀.Called w' (s.worked 0 0 2 0) (calls ++ [.access semaphore (.read statusPort)]) ∧
      handshake Soc.platform.toMapping (Soc.platform.bus discovery)
        ⟨Soc.platform.bus semaphore⟩ window w = .error (.refused .notReady) w' := by
  rcases handshake_read hs h discovery window with ⟨v, hcalled, hrun⟩
  refine ⟨_, hcalled.log .handshakeMissing, ?_⟩
  rw [hrun, if_pos hzero, bind_ok (log_moved _ _), refuse_run]

variable (hd : discovery.kind = .discovery) (hword : s.word ≠ 0#32)

include hd hword

theorem handshake_noArea {channel : Nat} (hlt : channel < channelCount)
    (hzero : s.published channel = 0#32) (hfound : ∀ other < channel, s.published other ≠ 0#32) :
    ∃ w', w₀.Called w' (s.worked (channel + 1) 0 2 0)
        (calls ++ [.access semaphore (.read statusPort)] ++
          (List.range (channel + 1)).flatMap (askCalls discovery)) ∧
      handshake Soc.platform.toMapping (Soc.platform.bus discovery)
        ⟨Soc.platform.bus semaphore⟩ window w = .error (.refused (.noArea channel)) w' := by
  rcases handshake_read hs h discovery window with ⟨v, hcalled, hrun⟩
  rcases discoverAreas_noArea hd hcalled hlt hzero hfound with ⟨w', hcalled', hsearch⟩
  refine ⟨w', hcalled', ?_⟩
  rw [hrun, if_neg hword, bind_error hsearch]

variable (hlimit : window < 2 ^ 63) (hfound : ∀ channel < channelCount, s.published channel ≠ 0#32)

include hlimit hfound

theorem handshake_areaNotMapped {channel : Nat} (hlt : channel < channelCount)
    (hno : s.Unmappable window channel)
    (hmappable : ∀ other < channel, ¬ s.Unmappable window other) :
    ∃ w', w₀.Called w' (s.worked channelCount (channel + 1) (2 + channel) (0 + channel))
        (calls ++ [.access semaphore (.read statusPort)] ++
          (List.range channelCount).flatMap (askCalls discovery) ++
          (List.range (channel + 1)).map (mapCall s window) ++
          ((List.range channel).map (s.windowRegion window)).map .unmap) ∧
      handshake Soc.platform.toMapping (Soc.platform.bus discovery)
        ⟨Soc.platform.bus semaphore⟩ window w =
          .error (.refused (.areaNotMapped channel)) w' := by
  rcases handshake_read hs h discovery window with ⟨v, hcalled, hrun⟩
  rcases discoverAreas_found hd hcalled hfound with ⟨v', hcalled', hsearch⟩
  rcases mapAreas_unmappable hlimit hcalled' hlt hno hmappable with ⟨w', hcalled'', hmap⟩
  refine ⟨w', hcalled'', ?_⟩
  rw [hrun, if_neg hword, bind_ok hsearch, bind_error hmap]

theorem handshake_connected (hmappable : ∀ channel < channelCount, ¬ s.Unmappable window channel) :
    ∃ w', w₀.Called w' (s.worked channelCount channelCount (2 + channelCount) 0)
        (calls ++ [.access semaphore (.read statusPort)] ++
          (List.range channelCount).flatMap (askCalls discovery) ++
          (List.range channelCount).map (mapCall s window)) ∧
      handshake Soc.platform.toMapping (Soc.platform.bus discovery)
        ⟨Soc.platform.bus semaphore⟩ window w =
          .ok ⟨(List.range channelCount).map (s.windowRegion window)⟩ w' := by
  rcases handshake_read hs h discovery window with ⟨v, hcalled, hrun⟩
  rcases discoverAreas_found hd hcalled hfound with ⟨v', hcalled', hsearch⟩
  rcases mapAreas_all hlimit hcalled' hmappable with ⟨w', hcalled'', hmap⟩
  refine ⟨w', hcalled'', ?_⟩
  rw [hrun, if_neg hword, bind_ok hsearch, bind_ok hmap, pure_run]

end Handshake

end Loops

end BpmpMailbox
