import Mathlib.Data.List.Nodup
import BpmpMailbox.Proofs.Upkeep

/-!
# Every region is given back once

A chip is used by any number of mailboxes, which come and go and fail to come.
The books of such a run are kept by ticket. Each ticket that was ever handed
out is in exactly one place: among the regions given back, or in the hands of
one mailbox in use. The journal says the rest: after a region was given back
it is not read, not written and not given back again.

`Account` is that balance for the tickets that somebody holds. It is a property
of regions in custody, so it follows every bring-up and every take-down, and it
is steady, so nothing that happens in between disturbs it. The number of live
regions is then a matter of counting: thirteen for each mailbox in use.

## Main definitions

* `Event.returned`: The tickets of the regions given back.
* `Event.Orderly`: No region is used after it was given back.
* `Account`: The balance of tickets handed out, given back and held.
* `Tenancy`: The runs in which mailboxes come, are used, and go.
* `Accounted`: What is true of a run at every moment.

## Theorems

* `Account.custody`, `Account.steady`: The balance survives.
* `Tenancy.account`: The balance of a run.
* `regions_accounted`: At every moment, and for the bring-up or take-down that comes next.
-/

namespace BpmpMailbox

namespace Event

/-- The ticket of the region that an event gives back. -/
def returns? : Event → Option Nat
  | .call (.unmap region) => some region.ticket
  | _ => none

/-- The ticket of the region that an event reads, writes or gives back. -/
def uses? : Event → Option Nat
  | .call (.access region _) => some region.ticket
  | .call (.unmap region) => some region.ticket
  | _ => none

/-- The tickets of the regions given back, in order. -/
def returned (events : List Event) : List Nat := events.filterMap returns?

/-- No region is used after it was given back; giving it back again is a use. -/
def Orderly (events : List Event) : Prop :=
  events.Pairwise fun earlier later =>
    ∀ ticket, earlier.returns? = some ticket → later.uses? ≠ some ticket

theorem returned_append (events : List Event) (e : Event) :
    returned (events ++ [e]) = returned events ++ e.returns?.toList := by
  rw [returned, List.filterMap_append, returned]
  cases h : e.returns? <;> simp [h]

theorem mem_returned {events : List Event} {region : Region}
    (h : .call (.unmap region) ∈ events) : region.ticket ∈ returned events :=
  List.mem_filterMap.mpr ⟨_, h, rfl⟩

end Event

/-- The tickets from `first` on that were handed out have been given back or
    are held, each in one place only. -/
structure Account (first : Nat) (held : List Nat) (w : World Soc) : Prop where
  first_le : first ≤ w.hardware.handouts
  books : (Event.returned w.journal ++ held).Perm
    (List.range' first (w.hardware.handouts - first))
  orderly : Event.Orderly w.journal
  live : w.hardware.liveRegions = BitVec.ofNat 64 held.length

namespace Account

variable {first : Nat} {held held' : List Nat} {w : World Soc}

theorem perm (hp : held.Perm held') (h : Account first held w) : Account first held' w where
  first_le := h.first_le
  books := (hp.append_left _).symm.trans h.books
  orderly := h.orderly
  live := by rw [h.live, hp.length_eq]

theorem nodup (h : Account first held w) : (Event.returned w.journal ++ held).Nodup :=
  h.books.nodup_iff.mpr (List.nodup_range' _)

theorem not_returned (h : Account first held w) {ticket : Nat} (hheld : ticket ∈ held) :
    ticket ∉ Event.returned w.journal :=
  fun hmem => (List.nodup_append.mp h.nodup).2.2 ticket hmem ticket hheld rfl

/-- An event that uses a region may be added while the region is held. -/
theorem orderly_append (h : Account first held w) (e : Event)
    (huses : ∀ ticket, e.uses? = some ticket → ticket ∈ held) :
    Event.Orderly (w.journal ++ [e]) := by
  refine List.pairwise_append.mpr ⟨h.orderly, List.pairwise_singleton _ _, ?_⟩
  intro earlier hearlier later hlater ticket hreturns huse
  rw [List.mem_singleton.mp hlater] at huse
  exact h.not_returned (huses ticket huse) (List.mem_filterMap.mpr ⟨earlier, hearlier, hreturns⟩)

theorem noted (e : Event) (he : e.Within fun region => region.ticket ∈ held)
    (h : Account first held w) : Account first held (w.moved w.hardware [e]) := by
  have hreturns : e.returns? = none := by
    unfold Event.returns?
    split
    · exact he.elim
    · rfl
  refine ⟨h.first_le, ?_, h.orderly_append e fun ticket huse => ?_, h.live⟩
  · change (Event.returned (w.journal ++ [e]) ++ held).Perm _
    rw [Event.returned_append, hreturns, Option.toList_none, List.append_nil]
    exact h.books
  · unfold Event.uses? at huse
    split at huse
    · rw [← Option.some.inj huse]
      exact he
    · exact he.elim
    · cases huse

theorem changed {s : Soc} (hs : s.SameBooks w.hardware) (h : Account first held w) :
    Account first held (w.moved s []) := by
  refine ⟨?_, ?_, ?_, ?_⟩
  · rw [World.moved_hardware, hs.2]
    exact h.first_le
  · rw [World.moved_hardware, hs.2, World.moved, List.append_nil]
    exact h.books
  · rw [World.moved, List.append_nil]
    exact h.orderly
  · rw [World.moved_hardware, hs.1]
    exact h.live

/-- The next ticket is the number of those before it. -/
theorem handedOut (h : Account first held w) :
    Account first (w.hardware.handouts :: held) (w.moved w.hardware.handedOut []) := by
  have hle := h.first_le
  refine ⟨Nat.le_succ_of_le hle, ?_, ?_, ?_⟩
  · have hrange : List.range' first (w.hardware.handouts + 1 - first) =
        List.range' first (w.hardware.handouts - first) ++ [w.hardware.handouts] := by
      rw [Nat.succ_sub hle, List.range'_1_concat, Nat.add_sub_cancel' hle]
    rw [World.moved, List.append_nil]
    change (Event.returned w.journal ++ w.hardware.handouts :: held).Perm
      (List.range' first (w.hardware.handouts + 1 - first))
    rw [hrange]
    exact List.perm_middle.trans ((List.perm_append_singleton _ _).symm.trans
      (h.books.append_right _))
  · rw [World.moved, List.append_nil]
    exact h.orderly
  · change w.hardware.liveRegions + 1#64 = _
    rw [h.live, List.length_cons, BitVec.ofNat_add]

theorem takenBack (region : Region) (h : Account first (region.ticket :: held) w) :
    Account first held (w.moved w.hardware.takenBack [.call (.unmap region)]) := by
  refine ⟨h.first_le, ?_, h.orderly_append _ fun ticket huse => ?_, ?_⟩
  · change (Event.returned (w.journal ++ [.call (.unmap region)]) ++ held).Perm _
    rw [Event.returned_append, List.append_assoc]
    exact h.books
  · rw [← Option.some.inj huse]
    exact List.mem_cons_self
  · change w.hardware.liveRegions - 1#64 = _
    rw [h.live, List.length_cons, BitVec.ofNat_add, BitVec.add_sub_cancel]

/-- The balance follows the regions of a bring-up, beside what others hold. -/
theorem custody (first : Nat) (held : List Nat) :
    Custody fun regions => Account first (regions.map (·.ticket) ++ held) where
  perm hp h := h.perm ((hp.map _).append_right _)
  noted e he h := h.noted e (he.mono fun _ hmem =>
    List.mem_append_left _ (List.mem_map_of_mem hmem))
  asked _ h := h.changed (Soc.sameBooksAndBells_discoveryWrite _ _ _).books
  counted h := h.changed ⟨rfl, rfl⟩
  handedOut _ h := h.handedOut
  takenBack region h := h.takenBack region

/-- The balance does not change while regions are only used by those who hold them. -/
theorem steady (first : Nat) (held : List Nat) :
    Steady (fun region => region.ticket ∈ held) (Account first held) where
  noted e he h := h.noted e he
  changed _ hs h := h.changed hs

/-- A bring-up adds a mailbox to the balance, or is refused and leaves it. -/
theorem connect_ends (h : Account first held w) {config : Configuration}
    (hwindow : config.areaWindow < addressLimit / 2) :
    Ends (· = w) (Mailbox.connect Soc.platform config)
      (fun mb w' => mb.regions.length = 13 ∧
        Account first (mb.regions.map (·.ticket) ++ held) w' ∧
        ∃ kind, w.hardware.resource? config.discoveryBlock = some kind ∧
          .call (.unmap ⟨kind, w.hardware.handouts⟩) ∈ w'.journal)
      (fun e w' => (∃ r, e = .refused r) ∧ Account first held w') := by
  refine ((custody first held).connect_ends config h).mono (fun _ hv => hv) (fun _ _ hw => hw) ?_
  rintro e w' (⟨⟨r, he, -⟩, haccount⟩ | ⟨-, hlimit⟩)
  · exact ⟨⟨r, he⟩, haccount⟩
  · -- A window below half the address range ends inside it, wherever a word places it.
    simp only [addressLimit] at hlimit hwindow
    omega

/-- A take-down takes a mailbox out of the balance, by giving back its regions. -/
theorem disconnect_ends (mb : Mailbox) (first : Nat) (held : List Nat) (count : Nat) :
    Ends (fun w => Account first (mb.regions.map (·.ticket) ++ held) w ∧
        count ≤ w.hardware.handouts)
      (mb.disconnect Soc.platform)
      (fun _ w => Account first held w ∧ count ≤ w.hardware.handouts) Never :=
  ((custody first held).and (Custody.le_handouts count)).disconnect_ends mb

/-- A ticket that is given back is given back once. -/
theorem count_returned (h : Account first held w) {ticket : Nat}
    (hmem : ticket ∈ Event.returned w.journal) : (Event.returned w.journal).count ticket = 1 :=
  List.count_eq_one_of_mem (List.nodup_append.mp h.nodup).1 hmem

theorem ticket_cases (h : Account first held w) {ticket : Nat} (hle : first ≤ ticket)
    (hlt : ticket < w.hardware.handouts) :
    ticket ∈ Event.returned w.journal ∨ ticket ∈ held := by
  have hmem : ticket ∈ List.range' first (w.hardware.handouts - first) :=
    List.mem_range'_1.mpr ⟨hle, by omega⟩
  exact List.mem_append.mp (h.books.mem_iff.mpr hmem)

theorem lt_of_held (h : Account first held w) {ticket : Nat} (hmem : ticket ∈ held) :
    ticket < w.hardware.handouts := by
  have hrange := List.mem_range'_1.mp (h.books.mem_iff.mp (List.mem_append_right _ hmem))
  have hle := h.first_le
  omega

end Account

/-- The tickets of the regions that some mailboxes hold. -/
def ticketsOf (live : List Mailbox) : List Nat :=
  live.flatMap fun mb => mb.regions.map (·.ticket)

/-- The runs of a chip on which mailboxes are connected, used and disconnected;
    those in use are listed. Steps that are refused or end in a fault are steps.
    The windows asked for are smaller than half the address range. -/
inductive Tenancy (start : Soc) : List Mailbox → World Soc → Prop where
  | start : Tenancy start [] ⟨start, []⟩
  /-- Whatever else happens to the chip: other faults are injected, other
      addresses published. -/
  | changed {live : List Mailbox} {w : World Soc} (s : Soc) (h : Tenancy start live w)
      (same : s.SameBooks w.hardware) : Tenancy start live (w.moved s [])
  /-- A step of the chip or its firmware, which may call the handlers of
      mailboxes in use. -/
  | chip {live : List Mailbox} {w : World Soc} (mailbox? : Nat → Option Mailbox)
      (step : Script.ChipStep) (h : Tenancy start live w)
      (inUse : ∀ number mb, mailbox? number = some mb → mb ∈ live) :
      Tenancy start live (w.after (step.run mailbox?))
  | used {live : List Mailbox} {w : World Soc} (c : Script.Connection) (step : Script.MailboxStep)
      (h : Tenancy start live w) (inUse : c.mailbox ∈ live) :
      Tenancy start live (w.after (step.run c))
  | connected {live : List Mailbox} {w w' : World Soc} {config : Configuration} {mb : Mailbox}
      (h : Tenancy start live w) (window : config.areaWindow < addressLimit / 2)
      (ends : Mailbox.connect Soc.platform config w = .ok mb w') : Tenancy start (mb :: live) w'
  | failed {live : List Mailbox} {w w' : World Soc} {config : Configuration} {stop : Stop}
      (h : Tenancy start live w) (window : config.areaWindow < addressLimit / 2)
      (ends : Mailbox.connect Soc.platform config w = .error stop w') : Tenancy start live w'
  | disconnected {before after : List Mailbox} {mb : Mailbox} {w : World Soc}
      (h : Tenancy start (before ++ mb :: after) w) :
      Tenancy start (before ++ after) (w.after (mb.disconnect Soc.platform))

/-- What is true of a run at every moment. -/
structure Accounted (start : Soc) (live : List Mailbox) (w : World Soc) : Prop where
  /-- Each mailbox in use holds the semaphore and twelve windows. -/
  regions : ∀ mb ∈ live, mb.regions.length = 13
  /-- There are no other live regions; the count is kept in 64 bits. -/
  liveRegions : w.hardware.liveRegions = BitVec.ofNat 64 (13 * live.length)
  /-- Each ticket handed out is in exactly one place. -/
  books : (Event.returned w.journal ++ ticketsOf live).Perm
    (List.range' start.handouts (w.hardware.handouts - start.handouts))
  /-- No region is read, written or given back after it was given back. -/
  orderly : Event.Orderly w.journal

theorem ticketsOf_middle (before after : List Mailbox) (mb : Mailbox) :
    (ticketsOf (before ++ mb :: after)).Perm
      (mb.regions.map (·.ticket) ++ ticketsOf (before ++ after)) := by
  simp only [ticketsOf, List.flatMap_append, List.flatMap_cons]
  exact List.perm_append_comm_assoc _ _ _

theorem ticket_mem_ticketsOf {live : List Mailbox} {mb : Mailbox} (hmb : mb ∈ live)
    {region : Region} (hregion : region ∈ mb.regions) : region.ticket ∈ ticketsOf live :=
  List.mem_flatMap.mpr ⟨mb, hmb, List.mem_map_of_mem hregion⟩

/-- At every moment of a run the tickets balance, and a mailbox in use holds
    its thirteen. -/
theorem Tenancy.account {start : Soc} (hstart : start.liveRegions = 0#64) {live : List Mailbox}
    {w : World Soc} (h : Tenancy start live w) :
    Account start.handouts (ticketsOf live) w ∧ ∀ mb ∈ live, mb.regions.length = 13 := by
  -- By induction on the run.
  induction h with
  | start =>
      refine ⟨⟨Nat.le_refl _, ?_, List.Pairwise.nil, hstart⟩, nofun⟩
      rw [Nat.sub_self]
      exact List.Perm.refl _
  | changed s h same ih => exact ⟨ih.1.changed same, ih.2⟩
  | chip mailbox? step h inUse ih =>
      refine ⟨((Account.steady _ _).chipStep ?_ step).after ih.1, ih.2⟩
      exact fun number mb hmb region hregion => ticket_mem_ticketsOf (inUse number mb hmb) hregion
  | used c step h inUse ih =>
      refine ⟨((Account.steady _ _).mailboxStep ?_ step).after ih.1, ih.2⟩
      exact fun region hregion => ticket_mem_ticketsOf inUse hregion
  | connected h window ends ih =>
      rcases (ih.1.connect_ends window).post_of_ok rfl ends with ⟨hlength, haccount, -⟩
      exact ⟨haccount, List.forall_mem_cons.mpr ⟨hlength, ih.2⟩⟩
  | failed h window ends ih =>
      exact ⟨((ih.1.connect_ends window).stop_of_error rfl ends).2, ih.2⟩
  | @disconnected before after mb w h ih =>
      have haccount := ih.1.perm (ticketsOf_middle before after mb)
      rcases (Account.disconnect_ends mb _ _ 0).exists_ok ⟨haccount, Nat.zero_le _⟩ with
        ⟨_, w', hok, haccount', -⟩
      rw [World.after_ok hok]
      exact ⟨haccount', fun other hother => ih.2 other (by
        rw [List.mem_append] at hother
        rw [List.mem_append, List.mem_cons]
        exact hother.imp_right Or.inr)⟩

theorem length_ticketsOf {live : List Mailbox} (h : ∀ mb ∈ live, mb.regions.length = 13) :
    (ticketsOf live).length = 13 * live.length := by
  induction live with
  | nil => rfl
  | cons mb live ih =>
      rw [List.forall_mem_cons] at h
      have hrest := ih h.2
      rw [ticketsOf, List.flatMap_cons, List.length_append, List.length_map, h.1,
        List.length_cons]
      rw [ticketsOf] at hrest
      omega

/-- Region accounting. At every moment of a run thirteen regions are live for
    each mailbox in use, each ticket is in one place, and no region is used
    after it was given back. A bring-up that fails is refused, leaves the
    number of live regions as it was and has given back, once each, all it
    took; one that succeeds has given back the discovery block, which is the
    first region it took; and a take-down gives back all that the mailbox held. -/
theorem regions_accounted {start : Soc} (hstart : start.liveRegions = 0#64)
    {live : List Mailbox} {w : World Soc} (h : Tenancy start live w) :
    Accounted start live w ∧
      (∀ config stop w', config.areaWindow < addressLimit / 2 →
        Mailbox.connect Soc.platform config w = .error stop w' →
          (∃ r, stop = .refused r) ∧ w'.hardware.liveRegions = w.hardware.liveRegions ∧
            ∀ ticket, w.hardware.handouts ≤ ticket → ticket < w'.hardware.handouts →
              (Event.returned w'.journal).count ticket = 1) ∧
      (∀ config mb w', config.areaWindow < addressLimit / 2 →
        Mailbox.connect Soc.platform config w = .ok mb w' →
          ∃ kind, w.hardware.resource? config.discoveryBlock = some kind ∧
            .call (.unmap ⟨kind, w.hardware.handouts⟩) ∈ w'.journal ∧
            (Event.returned w'.journal).count w.hardware.handouts = 1) ∧
      ∀ mb ∈ live, ∃ w', mb.disconnect Soc.platform w = .ok () w' ∧
        ∀ region ∈ mb.regions, (Event.returned w'.journal).count region.ticket = 1 := by
  rcases h.account hstart with ⟨haccount, hregions⟩
  refine ⟨⟨hregions, ?_, haccount.books, haccount.orderly⟩, ?_, ?_, ?_⟩
  · rw [haccount.live, length_ticketsOf hregions]
  · intro config stop w' hwindow hfails
    rcases (haccount.connect_ends hwindow).stop_of_error rfl hfails with ⟨hrefused, haccount'⟩
    refine ⟨hrefused, by rw [haccount'.live, haccount.live], fun ticket hle hlt => ?_⟩
    -- What the bring-up took was in nobody's hands before, and it is in nobody's hands now.
    rcases haccount'.ticket_cases (Nat.le_trans haccount.first_le hle) hlt with hreturned | hheld
    · exact haccount'.count_returned hreturned
    · exact absurd (haccount.lt_of_held hheld) (Nat.not_lt.mpr hle)
  · intro config mb w' hwindow hok
    rcases (haccount.connect_ends hwindow).post_of_ok rfl hok with
      ⟨-, haccount', kind, hkind, hmem⟩
    exact ⟨kind, hkind, hmem, haccount'.count_returned (Event.mem_returned hmem)⟩
  · intro mb hmb
    rcases List.append_of_mem hmb with ⟨before, after, rfl⟩
    have hmine := haccount.perm (ticketsOf_middle before after mb)
    rcases (Account.disconnect_ends mb _ _ w.hardware.handouts).exists_ok
      ⟨hmine, Nat.le_refl _⟩ with ⟨_, w', hok, haccount', hle⟩
    refine ⟨w', hok, fun region hregion => haccount'.count_returned ?_⟩
    -- The ticket was held by this mailbox alone, so nobody holds it now.
    have hticket : region.ticket ∈ mb.regions.map (·.ticket) := List.mem_map_of_mem hregion
    have hheld := List.mem_append_left (ticketsOf (before ++ after)) hticket
    have hrange := List.mem_range'_1.mp
      (hmine.books.mem_iff.mp (List.mem_append_right _ hheld))
    rcases haccount'.ticket_cases hrange.1
      (Nat.lt_of_lt_of_le (hmine.lt_of_held hheld) hle) with hreturned | hothers
    · exact hreturned
    · have hnodup := (List.nodup_append.mp hmine.nodup).2.1
      exact absurd rfl ((List.nodup_append.mp hnodup).2.2 _ hticket _ hothers)

/-- A mailbox comes and goes on a chip whose firmware has started. -/
theorem regions_accounted_booted :
    ∃ mb w w', Mailbox.connect Soc.platform .standard ⟨Soc.booted, []⟩ = .ok mb w ∧
      w.hardware.liveRegions = 13#64 ∧ mb.disconnect Soc.platform w = .ok () w' ∧
      w'.hardware.liveRegions = 0#64 ∧
      ∀ region ∈ mb.regions, (Event.returned w'.journal).count region.ticket = 1 := by
  rcases Mailbox.exists_connect_booted with ⟨mb, w, hconnect⟩
  have hrun : Tenancy Soc.booted [mb] w := .connected .start (by decide) hconnect
  rcases regions_accounted rfl hrun with ⟨haccounted, -, -, hdisconnect⟩
  rcases hdisconnect mb List.mem_cons_self with ⟨w', hok, hreturned⟩
  have hrun' : Tenancy Soc.booted ([] ++ []) (w.after (mb.disconnect Soc.platform)) :=
    .disconnected hrun
  rw [World.after_ok hok] at hrun'
  exact ⟨mb, w, w', hconnect, haccounted.liveRegions, hok,
    (regions_accounted rfl hrun').1.liveRegions, hreturned⟩

end BpmpMailbox
