import BpmpMailbox.Proofs.Custody
import BpmpMailbox.Proofs.Effects.Semaphore

/-!
# A connected mailbox holds the semaphore

The two register blocks are named by the configuration, and nobody checks that
the names are right. They are sorted out by what the handshake does with them.
A discovery block that is the semaphore reports no area for any channel, because
the semaphore answers with zero wherever it has no register, so the bring-up is
refused. What is left is the discovery block in its place, and either block as
the semaphore.

With the semaphore in its place the mailbox works on the chip's word, and the
handshake has seen that the word is not zero. With the discovery block in both
places the handshake reads the trigger instead: it keeps the last command, so
after one bring-up it is not zero either, and the mailbox that comes out has
no semaphore at all.

## Main definitions

* `Mailbox.ActsOnWord`: The operations of the mailbox's semaphore are operations on the word.

## Theorems

* `discoverAreas_semaphore`: The semaphore reports no area.
* `handshake_notReady`: A word of zero is refused.
* `holds_semaphore_of_connect`: What a bring-up guarantees, unless both blocks are the discovery
  block.
* `connect_onto_discovery`: What happens if they are.
-/

namespace BpmpMailbox

theorem Soc.word_of_mapBlock {index : Nat} {region? : Option Region} {w w' : World Soc}
    (h : platform.mapBlock index w = .ok region? w') : w'.hardware.word = w.hardware.word := by
  rw [platform_mapBlock] at h
  split at h
  · injection h with hregion hw
    rw [← hw]
    rfl
  · injection h with hregion hw
    rw [← hw]
    rfl

/-- A bring-up does not touch the word. -/
theorem Custody.word (word : Word) : Custody fun _ w => w.hardware.word = word where
  perm _ hw := hw
  noted _ _ hw := hw
  asked value hw := by
    rw [World.moved_hardware, Soc.discoveryWrite, if_pos rfl]
    exact hw
  counted hw := hw
  handedOut _ hw := hw
  takenBack _ hw := hw

/-- The semaphore in the place of the discovery registers reports no area for
    the first channel that is asked for. -/
theorem discoverAreas_semaphore {region : Region} (hr : region.kind = .semaphore)
    {channel : Channel} (hlt : channel.index < channelCount) (channels : List Channel)
    (w : World Soc) :
    ∃ w', discoverAreas (Soc.platform.bus region) (channel :: channels) w =
      .error (.refused (.noArea channel.index)) w' := by
  have hwrite : ∃ v, (Soc.platform.bus region).write triggerAddress
      (discoveryCommand channel.index) w = .ok () v := by
    rcases Region.trigger_write_run (Or.inr hr) (discoveryCommand channel.index) w with h | h
    · exact ⟨_, h⟩
    · exact ⟨_, h⟩
  rcases hwrite with ⟨v, hwrite⟩
  -- The results lie past the three ports of the semaphore, and there it reads as zero.
  have hport : ¬ resultBase + channel.index * 4 = statusPort := by
    simp only [resultBase, statusPort]
    omega
  have hread : (Soc.platform.bus region).read (resultBase + channel.index * 4) v =
      .ok 0#32 (v.moved v.hardware
        [.call (.access region (.read (resultBase + channel.index * 4)))]) := by
    rw [Soc.platform_read]
    simp only [Soc.regionBus, hr]
    rw [bind_ok (hardware_run _), pure_run, Soc.semaphoreRead, if_neg hport]
  have hasked : channelAddress (Soc.platform.bus region) channel.index w =
      .ok 0#32 (v.moved v.hardware
        [.call (.access region (.read (resultBase + channel.index * 4)))]) := by
    unfold channelAddress
    rw [bind_ok hwrite, bind_ok (ofExcept_ok (resultAddress_ok hlt) v), hread]
  unfold discoverAreas
  rw [bind_ok hasked, if_pos rfl, bind_ok (log_moved _ _), refuse_run]
  exact ⟨_, rfl⟩

namespace Mailbox

/-- The operations of the mailbox's semaphore are operations on the word of the
    chip, in whatever state the chip is. -/
structure ActsOnWord (mb : Mailbox) : Prop where
  status : ∀ v : World Soc, ∃ v', (mb.semaphore Soc.platform).status v = .ok v.hardware.word v' ∧
    v'.hardware = v.hardware
  signal : ∀ channel < channelCount, ∀ v : World Soc, ∃ v',
    (mb.semaphore Soc.platform).signal channel v = .ok () v' ∧
      v'.hardware = v.hardware.clearBits (fieldMask channel)
  acknowledge : ∀ channel < channelCount, ∀ (flags : MessageFlags) (v : World Soc), ∃ v',
    (mb.semaphore Soc.platform).acknowledge channel flags v = .ok () v' ∧
      v'.hardware = v.hardware.acknowledged channel flags
  release : ∀ channel < channelCount, ∀ v : World Soc,
    Word.state v.hardware.word channel = .acknowledged → ∃ v',
      (mb.semaphore Soc.platform).release channel v = .ok () v' ∧
        v'.hardware = v.hardware.clearBits (releaseBits channel)

theorem actsOnWord_of_kind {mb : Mailbox} (h : mb.semaphoreRegion.kind = .semaphore) :
    mb.ActsOnWord where
  status v := ⟨_, Semaphore.status_run h v, rfl⟩
  signal _ hlt v := ⟨_, Semaphore.signal_run h hlt v, rfl⟩
  acknowledge _ hlt flags v := ⟨_, Semaphore.acknowledge_run h hlt flags v, rfl⟩
  release _ hlt v hs := ⟨_, Semaphore.release_run h hlt v hs, rfl⟩

/-- A handshake that came to its end used the discovery block for discovery. -/
theorem kind_of_handshake {discovery : Region} {semaphore : Semaphore Soc} {window : Nat}
    {areas : AreaTable} {w w' : World Soc} (hblock : discovery.IsBlock)
    (h : handshake Soc.platform.toMapping (Soc.platform.bus discovery) semaphore window w =
      .ok areas w') : discovery.kind = .discovery := by
  rcases hblock with hkind | hkind
  · exact hkind
  · unfold handshake at h
    rcases exists_of_bind_ok h with ⟨word, v, -, h⟩
    split at h
    · rw [bind_ok (log_moved _ _), refuse_run] at h
      cases h
    · rcases exists_of_bind_ok h with ⟨found, v₁, hfound, -⟩
      have hin := Channel.index_lt_of_mem_all
      cases hall : Channel.all with
      | nil => cases hall
      | cons channel channels =>
          rw [hall] at hfound hin
          rcases discoverAreas_semaphore hkind (hin channel List.mem_cons_self) channels v with
            ⟨v₂, hrefused⟩
          rw [hrefused] at hfound
          cases hfound

/-- A word of zero is taken to mean that the firmware has not started. -/
theorem handshake_notReady (discovery : Region) {semaphore : Region}
    (hsemaphore : semaphore.kind = .semaphore) (window : Nat) {w : World Soc}
    (hw : w.hardware.word = 0#32) :
    ∃ w', handshake Soc.platform.toMapping (Soc.platform.bus discovery)
      ⟨Soc.platform.bus semaphore⟩ window w = .error (.refused .notReady) w' := by
  unfold handshake
  rw [bind_ok (Semaphore.status_run hsemaphore w), if_pos hw, bind_ok (log_moved _ _), refuse_run]
  exact ⟨_, rfl⟩

/-- A mailbox that was connected holds the semaphore: the word was not zero,
    the bring-up left it alone, and whatever the mailbox's semaphore does from
    then on it does to the word. The one configuration excluded names the
    discovery block twice. -/
theorem holds_semaphore_of_connect {config : Configuration}
    (hblocks : ¬ (config.discoveryBlock = 0 ∧ config.semaphoreBlock = 0)) {mb : Mailbox}
    {w w' : World Soc} (h : connect Soc.platform config w = .ok mb w') :
    w.hardware.word ≠ 0#32 ∧ w'.hardware.word = w.hardware.word ∧ mb.ActsOnWord := by
  rcases handshake_of_connect h with
    ⟨-, discovery, semaphore, areas, v, v₁, v₂, hmapped, hmapped₁, hareas, rfl⟩
  have hword₁ : v₁.hardware.word = w.hardware.word :=
    (Soc.word_of_mapBlock hmapped₁).trans (Soc.word_of_mapBlock hmapped)
  have hblock := Soc.isBlock_of_resource (Soc.mapBlock_ok hmapped).1
  -- The handshake tells the blocks apart, and then the semaphore is in its place.
  have hdiscovery := kind_of_handshake hblock hareas
  have hsemaphore : semaphore.kind = .semaphore := by
    rcases Soc.resource_cases (Soc.mapBlock_ok hmapped).1 with ⟨hzero, -⟩ | ⟨-, hkind⟩
    · rcases Soc.resource_cases (Soc.mapBlock_ok hmapped₁).1 with ⟨hzero₁, -⟩ | ⟨-, hkind⟩
      · exact absurd ⟨hzero, hzero₁⟩ hblocks
      · exact hkind
    · rw [hkind] at hdiscovery
      cases hdiscovery
  have hkept := ((Custody.word w.hardware.word).connect_ends config rfl).post_of_ok rfl h
  refine ⟨fun hzero => ?_, hkept.2.1, actsOnWord_of_kind hsemaphore⟩
  -- With a word of zero there would have been no mailbox.
  rcases handshake_notReady discovery hsemaphore config.areaWindow (hword₁.trans hzero) with
    ⟨v₃, hrefused⟩
  rw [hrefused] at hareas
  cases hareas

/-- The chip's own layout on a chip whose firmware has started. -/
theorem holds_semaphore_of_connect_booted :
    ∃ mb w, connect Soc.platform .standard ⟨Soc.booted, []⟩ = .ok mb w ∧
      ∃ w', (mb.semaphore Soc.platform).status w = .ok Soc.booted.word w' := by
  rcases exists_connect_booted with ⟨mb, w, hconnect⟩
  rcases holds_semaphore_of_connect (by decide) hconnect with ⟨-, hword, hacts⟩
  rcases hacts.status w with ⟨w', hstatus, -⟩
  rw [hword] at hstatus
  exact ⟨mb, w, hconnect, w', hstatus⟩

/-- With the discovery block in both places a second bring-up succeeds on the
    trigger that the first has left, and its mailbox reads the trigger where
    the word should be. -/
theorem connect_onto_discovery :
    ∃ mb₀ w₀ mb w value w', connect Soc.platform .standard ⟨Soc.booted, []⟩ = .ok mb₀ w₀ ∧
      ({ Configuration.standard with semaphoreBlock := 0 } : Configuration).check = .ok () ∧
      connect Soc.platform { Configuration.standard with semaphoreBlock := 0 } w₀ = .ok mb w ∧
      (mb.semaphore Soc.platform).status w = .ok value w' ∧ value ≠ w.hardware.word := by
  have hruns : (match connect Soc.platform .standard ⟨Soc.booted, []⟩ with
      | .ok _ w₀ =>
        match connect Soc.platform { Configuration.standard with semaphoreBlock := 0 } w₀ with
        | .ok mb w =>
          match (mb.semaphore Soc.platform).status w with
          | .ok value _ => value != w.hardware.word
          | .error _ _ => false
        | .error _ _ => false
      | .error _ _ => false) = true := by
    decide +kernel
  cases h₀ : connect Soc.platform .standard ⟨Soc.booted, []⟩ with
  | error e w₀ =>
      rw [h₀] at hruns
      cases hruns
  | ok mb₀ w₀ =>
      simp only [h₀] at hruns
      cases h₁ : connect Soc.platform { Configuration.standard with semaphoreBlock := 0 } w₀ with
      | error e w =>
          rw [h₁] at hruns
          cases hruns
      | ok mb w =>
          simp only [h₁] at hruns
          cases h₂ : (mb.semaphore Soc.platform).status w with
          | error e w' =>
              rw [h₂] at hruns
              cases hruns
          | ok value w' =>
              simp only [h₂] at hruns
              exact ⟨mb₀, w₀, mb, w, value, w', rfl, rfl, h₁, h₂, by simpa using hruns⟩

end Mailbox

end BpmpMailbox
