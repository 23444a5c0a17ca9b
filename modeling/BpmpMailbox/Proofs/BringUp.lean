import BpmpMailbox.Proofs.Custody
import BpmpMailbox.Proofs.Effects.Semaphore

/-!
# What a bring-up comes to

A bring-up makes some forty calls, and any of them can end it. What it comes
to is nevertheless a function of little: the word, the addresses published for
the channels, what is made to fail, and how many mappings of memory there were
before. These are the `Conditions`, and `Conditions.bringUp` is the function,
for a configuration that names the chip's two register blocks in their places.

The proof goes along the bring-up with `Ends`. Each part is told by what it
answers under the conditions that it finds and by those that it leaves. The
trigger, the counters of discoveries and of regions, and the journal change on
the way, and no answer depends on them.

## Main definitions

* `Conditions`, `Soc.conditions`: What a bring-up reads of the chip.
* `mapping`: What a mapping of memory comes to.
* `foundAreas`, `Conditions.windows`: What the two halves of the handshake come to.
* `Conditions.bringUp`: What a bring-up comes to.
* `Mailbox.shape`: What a bring-up chose, the tickets of the regions apart.

## Theorems

* `discoverAreas_answers`, `mapAreas_answers`: The two halves of the handshake.
* `Mailbox.shape_connect`: A bring-up comes to what the conditions say.
-/

namespace BpmpMailbox

/-- What a bring-up reads of the chip. -/
structure Conditions where
  word : Word
  addresses : Vector Word channelCount
  faults : Injection
  memoryMappings : Nat

/-- What a bring-up of the chip would read. -/
def Soc.conditions (s : Soc) : Conditions := ⟨s.word, s.addresses, s.faults, s.memoryMappings⟩

/-- What a mapping of memory comes to, when `count` mappings came before it. -/
def mapping (failing : Option Nat) (count phys size : Nat) : Except Fault (Option RegionKind) :=
  if failing = some count then .ok none
  else if phys < dramBase then .ok none
  else if addressLimit ≤ phys + size then .error (.overflow .add)
  else if phys + size ≤ dramBase + dramSize then .ok (some (.dram (phys - dramBase) size))
  else .ok none

/-- What the search for the areas comes to. -/
def foundAreas (addresses : Vector Word channelCount) :
    List Channel → Except Stop (List (Channel × Word))
  | [] => .ok []
  | channel :: channels =>
    if addresses[channel.index]?.getD 0#32 = 0#32 then .error (.refused (.noArea channel.index))
    else
      (foundAreas addresses channels).map
        ((channel, addresses[channel.index]?.getD 0#32) :: ·)

/-- What mapping the areas comes to, when `count` mappings came before. -/
def mappedAreas (failing : Option Nat) (window count : Nat) :
    List (Channel × Word) → Except Stop (List RegionKind)
  | [] => .ok []
  | (channel, addr) :: areas =>
    match mapping failing count addr.toNat window with
    | .error f => .error (.fault f)
    | .ok none => .error (.refused (.areaNotMapped channel.index))
    | .ok (some kind) => (mappedAreas failing window (count + 1) areas).map (kind :: ·)

namespace Conditions

/-- What the handshake comes to. -/
def handshake (c : Conditions) (window : Nat) : Except Stop (List RegionKind) :=
  if c.word = 0#32 then .error (.refused .notReady)
  else
    foundAreas c.addresses Channel.all >>=
      mappedAreas c.faults.failingMapping window c.memoryMappings

/-- What a bring-up comes to: the windows of the channels, or the stop. -/
def bringUp (c : Conditions) (config : Configuration) : Except Stop (List RegionKind) :=
  match config.check with
  | .error e => .error (.refused e)
  | .ok () =>
    if c.faults.missingBlock = some config.discoveryBlock then
      .error (.refused (.noDevice config.discoveryBlock))
    else if c.faults.missingBlock = some config.semaphoreBlock then
      .error (.refused (.noDevice config.semaphoreBlock))
    else c.handshake config.areaWindow

end Conditions

/-- The windows, the semaphore and the configuration of a mailbox. Which tickets
    its regions got is left out. -/
def Mailbox.shape (mb : Mailbox) : List RegionKind × RegionKind × Configuration :=
  (mb.areas.windows.map (·.kind), mb.semaphoreRegion.kind, mb.config)

section

variable {c : Conditions}

/-- A register block is handed out unless it is made to be missing. -/
theorem mapBlock_answers {index : Nat} {kind : RegionKind}
    (hkind : index = 0 ∧ kind = .discovery ∨ index = 1 ∧ kind = .semaphore) :
    Ends (fun w => w.hardware.conditions = c) (Soc.platform.mapBlock index)
      (fun region? w => region?.map (·.kind) =
          (if c.faults.missingBlock = some index then none else some kind) ∧
        w.hardware.conditions = c) Never := by
  rintro w rfl
  have hres : w.hardware.resource? index =
      if w.hardware.faults.missingBlock = some index then none else some kind := by
    rcases hkind with ⟨rfl, rfl⟩ | ⟨rfl, rfl⟩
    · rw [Soc.resource?, if_pos rfl]
    · rw [Soc.resource?, if_neg Nat.one_ne_zero, if_pos rfl]
  rw [Soc.platform_mapBlock, hres]
  simp only [Soc.conditions]
  split_ifs with hmissing
  · exact ⟨(if_pos hmissing).symm, rfl⟩
  · exact ⟨(if_neg hmissing).symm, rfl⟩

/-- A mapping comes to what the conditions say, and is counted. -/
theorem mapMemory_answers (phys size : Nat) :
    Ends (fun w => w.hardware.conditions = c) (Soc.platform.mapMemory phys size)
      (fun region? w => mapping c.faults.failingMapping c.memoryMappings phys size =
          .ok (region?.map (·.kind)) ∧
        w.hardware.conditions = { c with memoryMappings := c.memoryMappings + 1 })
      (fun e _ => ∃ f, e = .fault f ∧
        mapping c.faults.failingMapping c.memoryMappings phys size = .error f) := by
  rintro w rfl
  rw [Soc.platform_mapMemory]
  simp only [mapping, Soc.conditions]
  split_ifs with hfailing hbelow hlimit hin
  · exact ⟨if_pos hfailing, rfl⟩
  · exact ⟨rfl, rfl⟩
  · exact ⟨_, rfl, rfl⟩
  · exact ⟨rfl, rfl⟩
  · exact ⟨rfl, rfl⟩

/-- The windows mapped are those that the conditions allow, up to the first that
    they do not. By induction on the areas, each of which is one mapping more. -/
theorem mapAreas_answers {window : Nat} : ∀ (areas : List (Channel × Word)) (mapped : List Region)
    (c : Conditions),
    Ends (fun w => w.hardware.conditions = c) (mapAreas Soc.platform.toMapping window mapped areas)
      (fun windows _ => ∃ fresh, windows = mapped ++ fresh ∧
        mappedAreas c.faults.failingMapping window c.memoryMappings areas =
          .ok (fresh.map (·.kind)))
      (fun e _ => mappedAreas c.faults.failingMapping window c.memoryMappings areas =
        .error e) := by
  intro areas
  induction areas with
  | nil => exact fun mapped c => Ends.pure fun _ _ => ⟨[], (List.append_nil _).symm, rfl⟩
  | cons area areas ih =>
      intro mapped c
      rcases area with ⟨channel, addr⟩
      refine Ends.bind ((mapMemory_answers addr.toNat window).mono (fun _ hw => hw)
        (fun _ _ hw => hw) ?_) fun region? => ?_
      · rintro e _ ⟨f, rfl, hfault⟩
        simp only [mappedAreas, hfault]
      · refine Ends.assume fun hmapped => ?_
        cases region? with
        | none =>
            refine Ends.bind (M := fun _ _ => True) (Ends.log fun _ _ => trivial) fun _ => ?_
            refine Ends.bind (M := fun _ _ => True) ?_ fun _ => Ends.refuse fun _ _ => ?_
            · exact Ends.forM (I := fun _ _ => True)
                (fun region _ => Soc.unmap_keeps True region) mapped
            · simp only [mappedAreas, hmapped, Option.map_none]
        | some region =>
            refine Ends.bind (M := fun _ w => w.hardware.conditions = _) (Ends.log fun _ hw => hw)
              fun _ => (ih (mapped ++ [region]) _).mono (fun _ hw => hw) ?_ ?_
            · rintro windows _ ⟨fresh, rfl, hfresh⟩
              refine ⟨region :: fresh, by rw [List.append_assoc, List.singleton_append], ?_⟩
              simp only [mappedAreas, hmapped, Option.map_some, hfresh]
              rfl
            · intro e _ he
              simp only [mappedAreas, hmapped, Option.map_some, he]
              rfl

/-- The areas found are those published, up to the first channel without one. -/
theorem discoverAreas_answers {discovery : Region} (hr : discovery.kind = .discovery) :
    ∀ channels : List Channel, (∀ channel ∈ channels, channel.index < channelCount) →
      Ends (fun w => w.hardware.conditions = c)
        (discoverAreas (Soc.platform.bus discovery) channels)
        (fun areas w => foundAreas c.addresses channels = .ok areas ∧ w.hardware.conditions = c)
        (fun e _ => foundAreas c.addresses channels = .error e) := by
  intro channels
  induction channels with
  | nil => exact fun _ => Ends.pure fun _ hw => ⟨rfl, hw⟩
  | cons channel channels ih =>
      intro hin
      have haddr : Ends (fun w => w.hardware.conditions = c)
          (channelAddress (Soc.platform.bus discovery) channel.index)
          (fun addr w => addr = c.addresses[channel.index]?.getD 0#32 ∧
            w.hardware.conditions = c) Never := by
        rintro w rfl
        rw [channelAddress_run hr (hin channel List.mem_cons_self)]
        exact ⟨rfl, rfl⟩
      refine Ends.bind haddr.of_never fun addr => Ends.assume ?_
      rintro rfl
      refine Ends.ite (fun hzero => ?_) fun hne => ?_
      · refine Ends.bind (M := fun _ _ => True) (Ends.log fun _ _ => trivial) fun _ =>
          Ends.refuse fun _ _ => ?_
        rw [foundAreas, if_pos hzero]
      · have hrest := ih fun channel hmem => hin channel (List.mem_cons_of_mem _ hmem)
        refine Ends.bind (hrest.mono (fun _ hw => hw)
          (fun _ _ hw => hw) fun e _ he => ?_) fun areas => Ends.pure fun w hw => ⟨?_, hw.2⟩
        · rw [foundAreas, if_neg hne, he]
          rfl
        · rw [foundAreas, if_neg hne, hw.1]
          rfl

/-- The handshake comes to what the conditions say. -/
theorem handshake_answers {discovery semaphore : Region} (hr : discovery.kind = .discovery)
    (hs : semaphore.kind = .semaphore) (window : Nat) :
    Ends (fun w => w.hardware.conditions = c)
      (handshake Soc.platform.toMapping (Soc.platform.bus discovery)
        ⟨Soc.platform.bus semaphore⟩ window)
      (fun areas _ => c.handshake window = .ok (areas.windows.map (·.kind)))
      (fun e _ => c.handshake window = .error e) := by
  have hstatus : Ends (fun w => w.hardware.conditions = c)
      (⟨Soc.platform.bus semaphore⟩ : Semaphore Soc).status
      (fun word w => word = c.word ∧ w.hardware.conditions = c) Never := by
    rintro w rfl
    rw [Semaphore.status_run hs]
    exact ⟨rfl, rfl⟩
  refine Ends.bind hstatus.of_never fun word => Ends.assume ?_
  rintro rfl
  refine Ends.ite (fun hzero => ?_) fun hne => ?_
  · refine Ends.bind (M := fun _ _ => True) (Ends.log fun _ _ => trivial) fun _ =>
      Ends.refuse fun _ _ => ?_
    rw [Conditions.handshake, if_pos hzero]
  · have hfound := discoverAreas_answers (c := c) hr Channel.all Channel.index_lt_of_mem_all
    refine Ends.bind (hfound.mono (fun _ hw => hw) (fun _ _ hw => hw) fun e _ he => ?_)
      fun areas => Ends.assume fun hareas => ?_
    · rw [Conditions.handshake, if_neg hne, he]
      rfl
    · refine Ends.bind ((mapAreas_answers areas [] c).mono (fun _ hw => hw) (fun _ _ hw => hw)
        fun e _ he => ?_) fun windows => Ends.pure fun w hw => ?_
      · rw [Conditions.handshake, if_neg hne, hareas]
        exact he
      · rcases hw with ⟨fresh, rfl, hfresh⟩
        rw [Conditions.handshake, if_neg hne, hareas]
        exact hfresh

end

namespace Mailbox

section

variable {config : Configuration} (hdiscovery : config.discoveryBlock = 0)
  (hsemaphore : config.semaphoreBlock = 1) {c : Conditions}

include hdiscovery hsemaphore

/-- What comes out of a bring-up is what the conditions say. -/
theorem connect_answers :
    Ends (fun w => w.hardware.conditions = c) (connect Soc.platform config)
      (fun mb _ => c.bringUp config = .ok (mb.areas.windows.map (·.kind)) ∧
        mb.semaphoreRegion.kind = .semaphore ∧ mb.config = config)
      (fun e _ => c.bringUp config = .error e) := by
  unfold connect Conditions.bringUp
  cases hcheck : config.check with
  | error e => exact Ends.refuse fun _ _ => rfl
  | ok u =>
      simp only
      have hfirst := mapBlock_answers (c := c) (Or.inl ⟨hdiscovery, rfl⟩)
      refine Ends.bind hfirst.of_never fun discovery? => Ends.assume fun hdiscovery? => ?_
      by_cases hmissing : c.faults.missingBlock = some config.discoveryBlock
      · rw [if_pos hmissing, Option.map_eq_none_iff] at hdiscovery?
        rw [hdiscovery?, if_pos hmissing]
        exact Ends.refuse fun _ _ => rfl
      · rw [if_neg hmissing, Option.map_eq_some_iff] at hdiscovery?
        rcases hdiscovery? with ⟨discovery, rfl, hkind⟩
        rw [if_neg hmissing]
        have hsecond := mapBlock_answers (c := c) (Or.inr ⟨hsemaphore, rfl⟩)
        refine Ends.bind hsecond.of_never fun semaphore? => Ends.assume fun hsemaphore? => ?_
        by_cases hmissing₁ : c.faults.missingBlock = some config.semaphoreBlock
        · rw [if_pos hmissing₁, Option.map_eq_none_iff] at hsemaphore?
          rw [hsemaphore?, if_pos hmissing₁]
          refine Ends.of_imp (fun _ _ => trivial) ?_
          exact Ends.bind (Soc.unmap_keeps True discovery) fun _ => Ends.refuse fun _ _ => rfl
        · rw [if_neg hmissing₁, Option.map_eq_some_iff] at hsemaphore?
          rcases hsemaphore? with ⟨semaphore, rfl, hkind₁⟩
          rw [if_neg hmissing₁]
          have hhandshake : Ends _ (attempt (handshake Soc.platform.toMapping
              (Soc.platform.bus discovery) ⟨Soc.platform.bus semaphore⟩ config.areaWindow))
              (fun found _ => c.handshake config.areaWindow =
                (found.mapError Stop.refused).map fun areas => areas.windows.map (·.kind))
              (fun e _ => c.handshake config.areaWindow = .error e) :=
            Ends.attempt (handshake_answers hkind hkind₁ config.areaWindow) (fun _ _ he => he)
              fun _ _ he => he
          refine Ends.bind hhandshake fun found => ?_
          -- From here on nothing stops, and the answer is the one of the handshake.
          refine Ends.bind (Soc.unmap_keeps _ discovery) fun _ => ?_
          cases found with
          | ok areas =>
              exact Ends.bind (M := fun _ _ => _) (Ends.log fun _ hw => hw) fun _ =>
                Ends.pure fun _ hw => ⟨hw, hkind₁, rfl⟩
          | error e =>
              exact Ends.bind (Soc.unmap_keeps _ semaphore) fun _ => Ends.refuse fun _ hw => hw

end

/-- A bring-up of the chip's own blocks comes to what the conditions say: to the
    windows that they allow, or to the stop that they call for. -/
theorem shape_connect {config : Configuration} (hdiscovery : config.discoveryBlock = 0)
    (hsemaphore : config.semaphoreBlock = 1) (w : World Soc) :
    (w.answer (connect Soc.platform config)).map shape =
      (w.hardware.conditions.bringUp config).map fun windows => (windows, .semaphore, config) := by
  have hends := connect_answers hdiscovery hsemaphore w rfl
  cases hconnect : connect Soc.platform config w with
  | ok mb w' =>
      rw [hconnect] at hends
      rw [World.answer_ok hconnect, hends.1, Except.map, shape, hends.2.1, hends.2.2]
      rfl
  | error e w' =>
      rw [hconnect] at hends
      rw [World.answer_error hconnect, hends]
      rfl

end Mailbox

end BpmpMailbox
