import BpmpMailbox.Proofs.Effects.BringUp
import BpmpMailbox.Proofs.Effects.Mailbox
import BpmpMailbox.Proofs.MessageArea

/-!
# The outcome of a bring-up

A bring-up can end in seven ways, and the chip decides which. It is the first
that applies, in the order in which a bring-up goes about its work: the
configuration is checked, the two register blocks are mapped, the word is read,
every channel is asked for its area, and every area is mapped. Two of the steps
are loops over the channels, and there the first channel that fails decides.

How a bring-up ends also tells what it has done by then, down to the single
call, because a loop that stops at a channel has been through all the channels
before it and through none behind it. What this module proves is the whole of
it: the answer, the calls in their order, and the chip afterwards, with the
counters of discoveries and of mappings, which never go back.

## Main definitions

* `BringUpEnd`: The ways in which a bring-up ends.
* `Soc.handshakeEnd`, `Soc.bringUpEnd`: The one that the chip decides on.
* `BringUpEnd.result`, `BringUpEnd.calls`, `BringUpEnd.chip`: The answer, the calls made by then,
  and the chip that is left.
* `Mailbox.ComesTo`: A bring-up comes to this end.

## Theorems

* `Mailbox.comesTo_handshakeEnd`, `Mailbox.comesTo_bringUpEnd`: A bring-up ends the way that the
  chip decides on.
* `Mailbox.connect_outcome`: The same, and what a mailbox then reaches.
-/

namespace BpmpMailbox

open Script (runStep)

/-- The ways in which a bring-up ends. -/
inductive BringUpEnd where
  /-- The configured window cannot hold a message. -/
  | windowTooSmall
  /-- The discovery block is missing. -/
  | discoveryMissing
  /-- The semaphore block is missing. -/
  | semaphoreMissing
  /-- The firmware has not published the handshake. -/
  | notReady
  /-- This channel is the first without an area. -/
  | noArea (channel : Nat)
  /-- This channel is the first whose area could not be mapped. -/
  | areaNotMapped (channel : Nat)
  /-- There is a mailbox. -/
  | connected
  deriving DecidableEq, Repr

namespace Soc

/-- The end that the chip decides on once both register blocks are mapped. -/
def handshakeEnd (s : Soc) (window : Nat) : BringUpEnd :=
  if s.word = 0#32 then .notReady
  else
    match (List.range channelCount).find? fun channel => s.published channel = 0#32 with
    | some channel => .noArea channel
    | none =>
      match (List.range channelCount).find? fun channel => s.Unmappable window channel with
      | some channel => .areaNotMapped channel
      | none => .connected

/-- The end that the chip decides on, for a window of the given size. -/
def bringUpEnd (s : Soc) (window : Nat) : BringUpEnd :=
  if window < messageSize then .windowTooSmall
  else if s.faults.missingBlock = some 0 then .discoveryMissing
  else if s.faults.missingBlock = some 1 then .semaphoreMissing
  else s.handshakeEnd window

end Soc

namespace BringUpEnd

/-- The number of channels asked for their area. -/
def discoveries : BringUpEnd → Nat
  | .windowTooSmall | .discoveryMissing | .semaphoreMissing | .notReady => 0
  | .noArea channel => channel + 1
  | .areaNotMapped _ | .connected => channelCount

/-- The number of mappings asked for. -/
def mappings : BringUpEnd → Nat
  | .areaNotMapped channel => channel + 1
  | .connected => channelCount
  | _ => 0

/-- The number of regions handed out. -/
def handouts : BringUpEnd → Nat
  | .windowTooSmall | .discoveryMissing => 0
  | .semaphoreMissing => 1
  | .notReady | .noArea _ => 2
  | .areaNotMapped channel => 2 + channel
  | .connected => 2 + channelCount

/-- The number of regions kept: those of a mailbox, or none. -/
def kept : BringUpEnd → Nat
  | .connected => 1 + channelCount
  | _ => 0

/-- The regions given back, in this order. -/
def givenBack (s : Soc) (window : Nat) : BringUpEnd → List Region
  | .windowTooSmall | .discoveryMissing => []
  | .semaphoreMissing | .connected => [s.discoveryRegion]
  | .notReady | .noArea _ => [s.discoveryRegion, s.semaphoreRegion]
  | .areaNotMapped channel =>
    (List.range channel).map (s.windowRegion window) ++ [s.discoveryRegion, s.semaphoreRegion]

/-- The hardware calls, in their order. -/
def calls (s : Soc) (window : Nat) (e : BringUpEnd) : List HardwareCall :=
  opening ++ (List.range e.discoveries).flatMap (askCalls s.discoveryRegion) ++
    (List.range e.mappings).map (mapCall s window) ++
    (e.givenBack s window).map .unmap
where
  /-- The calls before the first channel is asked. -/
  opening : List HardwareCall :=
    match e with
    | .windowTooSmall => []
    | .discoveryMissing => [.mapBlock 0]
    | .semaphoreMissing => [.mapBlock 0, .mapBlock 1]
    | _ => [.mapBlock 0, .mapBlock 1, .access s.semaphoreRegion (.read statusPort)]

/-- The chip afterwards. What is not named here has not changed. -/
def chip (s : Soc) (e : BringUpEnd) : Soc :=
  { s with
    trigger := if e.discoveries = 0 then s.trigger else discoveryCommand (e.discoveries - 1)
    discoveries := s.discoveries + e.discoveries
    memoryMappings := s.memoryMappings + e.mappings
    liveRegions := s.liveRegions + BitVec.ofNat 64 e.kept
    handouts := s.handouts + e.handouts }

/-- The answer. -/
def result (s : Soc) (config : Configuration) : BringUpEnd → Except Stop Mailbox
  | .windowTooSmall => .error (.refused (.windowTooSmall config.areaWindow messageSize))
  | .discoveryMissing => .error (.refused (.noDevice 0))
  | .semaphoreMissing => .error (.refused (.noDevice 1))
  | .notReady => .error (.refused .notReady)
  | .noArea channel => .error (.refused (.noArea channel))
  | .areaNotMapped channel => .error (.refused (.areaNotMapped channel))
  | .connected =>
    .ok ⟨s.semaphoreRegion,
      ⟨(List.range channelCount).map (s.windowRegion config.areaWindow)⟩, config⟩

end BringUpEnd

/-- What was handed out and not given back is kept. -/
theorem Soc.worked_eq_chip (s : Soc) (e : BringUpEnd) :
    s.worked e.discoveries e.mappings e.handouts (e.handouts - e.kept) = e.chip s := by
  have hle : e.kept ≤ e.handouts := by
    cases e <;> simp only [BringUpEnd.kept, BringUpEnd.handouts] <;> omega
  have hlive : s.liveRegions + BitVec.ofNat 64 e.handouts -
      BitVec.ofNat 64 (e.handouts - e.kept) = s.liveRegions + BitVec.ofNat 64 e.kept := by
    bv_omega
  simp only [worked, BringUpEnd.chip, hlive]

/-- The first of a row of numbers with a property, and none before it. -/
theorem find?_range_some {p : Nat → Prop} [DecidablePred p] {count first : Nat}
    (h : (List.range count).find? (fun n => p n) = some first) :
    first < count ∧ p first ∧ ∀ n < first, ¬ p n := by
  rw [List.find?_range_eq_some] at h
  simpa only [decide_eq_true_eq, List.mem_range, Bool.not_eq_true', decide_eq_false_iff_not,
    and_left_comm] using h

theorem find?_range_none {p : Nat → Prop} [DecidablePred p] {count : Nat}
    (h : (List.range count).find? (fun n => p n) = none) : ∀ n < count, ¬ p n := by
  rw [List.find?_range_eq_none] at h
  simpa only [Bool.not_eq_true', decide_eq_false_iff_not] using h

namespace Mailbox

/-- The bring-up of the chip comes to this end: it answers accordingly, and it
    has made the calls and left the chip that go with it. -/
structure ComesTo (s : Soc) (config : Configuration) (e : BringUpEnd) : Prop where
  result : (runStep s (connect Soc.platform config)).result = e.result s config
  calls : Event.calls (runStep s (connect Soc.platform config)).events =
    e.calls s config.areaWindow
  after : (runStep s (connect Soc.platform config)).after = e.chip s

namespace ComesTo

variable {s : Soc} {config : Configuration} {e : BringUpEnd} {w : World Soc}

theorem of_called (h : World.Called ⟨s, []⟩ w
      (s.worked e.discoveries e.mappings e.handouts (e.handouts - e.kept))
      (e.calls s config.areaWindow))
    (hrun : (∃ mb, e.result s config = .ok mb ∧ connect Soc.platform config ⟨s, []⟩ = .ok mb w) ∨
      ∃ stop, e.result s config = .error stop ∧
        connect Soc.platform config ⟨s, []⟩ = .error stop w) : ComesTo s config e := by
  have hchip := h.hardware_eq
  rw [Soc.worked_eq_chip] at hchip
  rcases h with ⟨events, hw, hcalls⟩
  have hjournal : w.journal = events := by rw [hw, World.moved, List.nil_append]
  rcases hrun with ⟨mb, hresult, hrun⟩ | ⟨stop, hresult, hrun⟩
  · have hstep := runStep_ok hrun
    refine ⟨?_, ?_, ?_⟩ <;> rw [hstep]
    · exact hresult.symm
    · rw [hjournal, hcalls]
    · exact hchip
  · have hstep := runStep_error hrun
    refine ⟨?_, ?_, ?_⟩ <;> rw [hstep]
    · exact hresult.symm
    · rw [hjournal, hcalls]
    · exact hchip

end ComesTo

/-- What a bring-up does once it has both register blocks. -/
def conclude (config : Configuration) (discovery semaphore : Region) : Action Soc Mailbox := do
  let found ← attempt (handshake Soc.platform.toMapping (Soc.platform.bus discovery)
    ⟨Soc.platform.bus semaphore⟩ config.areaWindow)
  Soc.platform.unmap discovery
  match found with
  | .ok areas =>
    log (.connected areas.windows.length config.doorbellLine)
    pure ⟨semaphore, areas, config⟩
  | .error e =>
    Soc.platform.unmap semaphore
    refuse e

section

variable {config : Configuration} {s : Soc} {e : BringUpEnd} {w v : World Soc} {back : Nat}
  {calls : List HardwareCall}
  (hconnect : connect Soc.platform config ⟨s, []⟩ =
    conclude config s.discoveryRegion s.semaphoreRegion w)
  (hcalled : World.Called ⟨s, []⟩ v (s.worked e.discoveries e.mappings e.handouts back) calls)

include hconnect hcalled

/-- A refused handshake has both register blocks given back. -/
theorem comesTo_of_refused {r : Refusal}
    (hrun : handshake Soc.platform.toMapping (Soc.platform.bus s.discoveryRegion)
      ⟨Soc.platform.bus s.semaphoreRegion⟩ config.areaWindow w = .error (.refused r) v)
    (hresult : e.result s config = .error (.refused r)) (hback : back + 2 = e.handouts - e.kept)
    (hcalls : calls ++ [.unmap s.discoveryRegion] ++ [.unmap s.semaphoreRegion] =
      e.calls s config.areaWindow) : ComesTo s config e := by
  rcases hcalled.unmap s.discoveryRegion with ⟨v₁, hcalled₁, hunmap₁⟩
  rcases hcalled₁.unmap s.semaphoreRegion with ⟨v₂, hcalled₂, hunmap₂⟩
  rw [show back + 1 + 1 = e.handouts - e.kept from hback] at hcalled₂
  refine ComesTo.of_called (hcalled₂.of_eq hcalls) (Or.inr ⟨_, hresult, ?_⟩)
  unfold conclude at hconnect
  rw [hconnect, bind_ok (attempt_refused hrun), bind_ok hunmap₁]
  simp only
  rw [bind_ok hunmap₂, refuse_run]

/-- A handshake that came to its end makes a mailbox, and only the discovery
    block is given back. -/
theorem comesTo_of_found {areas : AreaTable}
    (hrun : handshake Soc.platform.toMapping (Soc.platform.bus s.discoveryRegion)
      ⟨Soc.platform.bus s.semaphoreRegion⟩ config.areaWindow w = .ok areas v)
    (hresult : e.result s config = .ok ⟨s.semaphoreRegion, areas, config⟩)
    (hback : back + 1 = e.handouts - e.kept)
    (hcalls : calls ++ [.unmap s.discoveryRegion] = e.calls s config.areaWindow) :
    ComesTo s config e := by
  rcases hcalled.unmap s.discoveryRegion with ⟨v₁, hcalled₁, hunmap₁⟩
  rw [hback] at hcalled₁
  refine ComesTo.of_called ((hcalled₁.log (.connected areas.windows.length
    config.doorbellLine)).of_eq hcalls) (Or.inl ⟨_, hresult, ?_⟩)
  unfold conclude at hconnect
  rw [hconnect, bind_ok (attempt_ok hrun), bind_ok hunmap₁]
  simp only
  rw [bind_ok (log_moved _ _), pure_run]

end

section

variable {config : Configuration} {s : Soc}

theorem comesTo_windowTooSmall (h : config.areaWindow < messageSize) :
    ComesTo s config .windowTooSmall := by
  have hcheck : config.check = .error (.windowTooSmall config.areaWindow messageSize) := if_pos h
  refine ComesTo.of_called (World.Called.start ⟨s, []⟩) (Or.inr ⟨_, rfl, ?_⟩)
  unfold connect
  simp only [hcheck]
  rw [refuse_run]

variable (hdiscovery : config.discoveryBlock = 0) (hcheck : config.check = .ok ())

include hdiscovery hcheck

theorem comesTo_discoveryMissing (h : s.resource? 0 = none) :
    ComesTo s config .discoveryMissing := by
  rcases (World.Called.start ⟨s, []⟩).mapBlock_missing h with ⟨w, hcalled, hmap⟩
  refine ComesTo.of_called hcalled (Or.inr ⟨_, rfl, ?_⟩)
  unfold connect
  simp only [hcheck, hdiscovery]
  rw [bind_ok hmap]
  simp only
  rw [refuse_run]

variable (hsemaphore : config.semaphoreBlock = 1) (hfirst : s.resource? 0 = some .discovery)

include hsemaphore hfirst

theorem comesTo_semaphoreMissing (h : s.resource? 1 = none) :
    ComesTo s config .semaphoreMissing := by
  rcases (World.Called.start ⟨s, []⟩).mapBlock hfirst with ⟨w₁, hcalled₁, hmap₁⟩
  rcases hcalled₁.mapBlock_missing h with ⟨w₂, hcalled₂, hmap₂⟩
  rcases hcalled₂.unmap s.discoveryRegion with ⟨w, hcalled, hunmap⟩
  refine ComesTo.of_called hcalled (Or.inr ⟨_, rfl, ?_⟩)
  unfold connect
  simp only [hcheck, hdiscovery, hsemaphore]
  rw [bind_ok hmap₁]
  simp only
  rw [bind_ok hmap₂]
  simp only
  rw [show (⟨.discovery, s.handouts + 0⟩ : Region) = s.discoveryRegion from rfl, bind_ok hunmap,
    refuse_run]

variable (hsecond : s.resource? 1 = some .semaphore)

include hsecond

/-- With both blocks there, what is left is the handshake and what comes of it. -/
theorem connect_opened :
    ∃ w, World.Called ⟨s, []⟩ w (s.worked 0 0 2 0) [.mapBlock 0, .mapBlock 1] ∧
      connect Soc.platform config ⟨s, []⟩ =
        conclude config s.discoveryRegion s.semaphoreRegion w := by
  rcases (World.Called.start ⟨s, []⟩).mapBlock hfirst with ⟨w₁, hcalled₁, hmap₁⟩
  rcases hcalled₁.mapBlock hsecond with ⟨w, hcalled, hmap⟩
  refine ⟨w, hcalled, ?_⟩
  unfold connect
  simp only [hcheck, hdiscovery, hsemaphore]
  rw [bind_ok hmap₁]
  simp only
  rw [bind_ok hmap]
  rfl

/-- The handshake decides how a bring-up with both register blocks ends. -/
theorem comesTo_handshakeEnd (hlimit : config.areaWindow < 2 ^ 63) :
    ComesTo s config (s.handshakeEnd config.areaWindow) := by
  have hs : s.semaphoreRegion.kind = .semaphore := rfl
  have hd : s.discoveryRegion.kind = .discovery := rfl
  rcases connect_opened hdiscovery hcheck hsemaphore hfirst hsecond with ⟨w, hopened, hconnect⟩
  unfold Soc.handshakeEnd
  by_cases hzero : s.word = 0#32
  · rw [if_pos hzero]
    rcases handshake_unpublished hs hopened hzero with ⟨v, hcalled, hrun⟩
    exact comesTo_of_refused hconnect hcalled hrun rfl rfl rfl
  rw [if_neg hzero]
  cases hsearch : (List.range channelCount).find? fun channel => s.published channel = 0#32 with
  | some channel =>
      rcases find?_range_some hsearch with ⟨hlt, hnone, hfound⟩
      rcases handshake_noArea hs hopened hd hzero hlt hnone hfound with ⟨v, hcalled, hrun⟩
      refine comesTo_of_refused hconnect hcalled hrun rfl rfl ?_
      simp only [BringUpEnd.calls, BringUpEnd.calls.opening, BringUpEnd.discoveries,
        BringUpEnd.mappings, BringUpEnd.givenBack, List.range_zero, List.map_nil, List.append_nil,
        List.append_assoc]
      rfl
  | none =>
      have hfound := find?_range_none hsearch
      cases hmap : (List.range channelCount).find?
          fun channel => s.Unmappable config.areaWindow channel with
      | some channel =>
          rcases find?_range_some hmap with ⟨hlt, hno, hmappable⟩
          rcases handshake_areaNotMapped hs hopened hd hzero hlimit hfound hlt hno hmappable with
            ⟨v, hcalled, hrun⟩
          refine comesTo_of_refused hconnect hcalled hrun rfl ?_ ?_
          · simp only [BringUpEnd.handouts, BringUpEnd.kept]
            omega
          · simp only [BringUpEnd.calls, BringUpEnd.calls.opening, BringUpEnd.discoveries,
              BringUpEnd.mappings, BringUpEnd.givenBack, List.map_append, List.append_assoc]
            rfl
      | none =>
          rcases handshake_connected hs hopened hd hzero hlimit hfound (find?_range_none hmap) with
            ⟨v, hcalled, hrun⟩
          exact comesTo_of_found hconnect hcalled hrun rfl rfl rfl

end

/-- A bring-up ends the way that the chip decides on. -/
theorem comesTo_bringUpEnd {config : Configuration} (hdiscovery : config.discoveryBlock = 0)
    (hsemaphore : config.semaphoreBlock = 1) (hlimit : config.areaWindow < 2 ^ 63) (s : Soc) :
    ComesTo s config (s.bringUpEnd config.areaWindow) := by
  unfold Soc.bringUpEnd
  by_cases hwindow : config.areaWindow < messageSize
  · rw [if_pos hwindow]
    exact comesTo_windowTooSmall hwindow
  have hcheck : config.check = .ok () := if_neg hwindow
  rw [if_neg hwindow]
  by_cases hfirst : s.faults.missingBlock = some 0
  · rw [if_pos hfirst]
    exact comesTo_discoveryMissing hdiscovery hcheck (if_pos hfirst)
  have hthere : s.resource? 0 = some .discovery := by
    rw [Soc.resource?, if_neg hfirst, if_pos rfl]
  rw [if_neg hfirst]
  by_cases hsecond : s.faults.missingBlock = some 1
  · rw [if_pos hsecond]
    exact comesTo_semaphoreMissing hdiscovery hcheck hsemaphore hthere (if_pos hsecond)
  have hthere' : s.resource? 1 = some .semaphore := by
    rw [Soc.resource?, if_neg hsecond, if_neg Nat.one_ne_zero, if_pos rfl]
  rw [if_neg hsecond]
  exact comesTo_handshakeEnd hdiscovery hcheck hsemaphore hthere hthere' hlimit

end Mailbox

theorem BringUpEnd.eq_connected {s : Soc} {config : Configuration} {e : BringUpEnd} {mb : Mailbox}
    (h : e.result s config = .ok mb) : e = .connected := by
  cases e with
  | connected => rfl
  | _ => cases h

/-- The chip decides for a mailbox only when the window holds a message and
    the area of every channel can be mapped. -/
theorem Soc.mappable_of_connected {s : Soc} {window : Nat} (h : s.bringUpEnd window = .connected) :
    messageSize ≤ window ∧ ∀ channel < channelCount, ¬ s.Unmappable window channel := by
  unfold bringUpEnd handshakeEnd at h
  -- Of all the ends only the last one is this one.
  split_ifs at h with hwindow hfirst hsecond hzero
  split at h
  · cases h
  · split at h
    · cases h
    · exact ⟨Nat.not_lt.mp hwindow, find?_range_none ‹_›⟩

/-- The window of a channel begins with the message at the published address. -/
theorem Soc.messageAt_windowRegion {s : Soc} {window channel : Nat} (hwindow : messageSize ≤ window)
    (h : ¬ s.Unmappable window channel) :
    (s.windowRegion window channel).MessageAt (s.placeOf channel) := by
  simp only [Unmappable, not_or, Nat.not_lt] at h
  refine ⟨window, rfl, hwindow, ?_⟩
  rw [placeOf]
  omega

/-- The firmware finds the area of a channel at the same place. -/
theorem Soc.areaOffset_of_mappable {s : Soc} {window channel : Nat} (hlt : channel < channelCount)
    (h : ¬ s.Unmappable window channel) : s.areaOffset channel = .ok (s.placeOf channel) := by
  simp only [Unmappable, not_or, Nat.not_lt] at h
  exact areaOffset_of_le hlt h.1

namespace Mailbox

/-- The outcome of a bring-up that names the chip's two register blocks. It
    ends the way that the chip decides on, with the answer, the calls and the
    chip that go with it. With a mailbox, the configuration is the one given,
    and the area of every channel is the memory at the address published for
    it, where the firmware has it as well. -/
theorem connect_outcome {config : Configuration} (hdiscovery : config.discoveryBlock = 0)
    (hsemaphore : config.semaphoreBlock = 1) (hlimit : config.areaWindow < 2 ^ 63) (s : Soc) :
    ComesTo s config (s.bringUpEnd config.areaWindow) ∧
    ∀ mb, (runStep s (connect Soc.platform config)).result = .ok mb →
      mb.config = config ∧
      ∀ channel < channelCount, s.areaOffset channel = .ok (s.placeOf channel) ∧
        ∀ w, ∃ area, mb.area Soc.platform channel w = .ok area w ∧
          area.window.HoldsMessage (s.placeOf channel) Soc.dram Soc.stored := by
  have hcomes := comesTo_bringUpEnd hdiscovery hsemaphore hlimit s
  refine ⟨hcomes, fun mb hmb => ?_⟩
  have hresult := hcomes.result.symm.trans hmb
  have hend := BringUpEnd.eq_connected hresult
  rcases Soc.mappable_of_connected hend with ⟨hwindow, hmappable⟩
  rw [hend] at hresult
  have hmailbox := (Except.ok.inj hresult).symm
  refine ⟨congrArg Mailbox.config hmailbox, fun channel hlt =>
    ⟨Soc.areaOffset_of_mappable hlt (hmappable channel hlt), fun w => ?_⟩⟩
  have hregion : mb.areas.outbound? channel = some (s.windowRegion config.areaWindow channel) := by
    rw [hmailbox, AreaTable.outbound?, List.getElem?_map, List.getElem?_range hlt, Option.map_some]
  exact ⟨_, area_run hregion w,
    (Soc.messageAt_windowRegion hwindow (hmappable channel hlt)).holds⟩

/-- A chip whose firmware has just started, once as it is and once with the
    fourth mapping of memory made to fail. -/
theorem connect_outcome_booted :
    (∃ mb, (runStep Soc.booted (connect Soc.platform .standard)).result = .ok mb ∧
      mb.config = .standard) ∧
    (runStep { Soc.booted with faults := ⟨none, some 3, none⟩ }
      (connect Soc.platform .standard)).result = .error (.refused (.areaNotMapped 3)) ∧
    (runStep { Soc.booted with faults := ⟨none, some 3, none⟩ }
      (connect Soc.platform .standard)).after.memoryMappings = 4 := by
  have hblocks : Configuration.standard.discoveryBlock = 0 ∧
      Configuration.standard.semaphoreBlock = 1 := ⟨rfl, rfl⟩
  have hlimit : Configuration.standard.areaWindow < 2 ^ 63 := by decide
  have hconnected : Soc.booted.bringUpEnd Configuration.standard.areaWindow = .connected := by
    decide +kernel
  have hfails : ({ Soc.booted with faults := ⟨none, some 3, none⟩ } : Soc).bringUpEnd
      Configuration.standard.areaWindow = .areaNotMapped 3 := by
    decide +kernel
  have hbooted := connect_outcome hblocks.1 hblocks.2 hlimit Soc.booted
  have hresult := hbooted.1.result
  rw [hconnected] at hresult
  have hcomes := (connect_outcome hblocks.1 hblocks.2 hlimit
    { Soc.booted with faults := ⟨none, some 3, none⟩ }).1
  rw [hfails] at hcomes
  refine ⟨⟨_, hresult, (hbooted.2 _ hresult).1⟩, hcomes.result, ?_⟩
  rw [hcomes.after]
  rfl

end Mailbox

end BpmpMailbox
