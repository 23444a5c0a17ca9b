import Mathlib.Data.List.Nodup
import BpmpMailbox.Toml.Document

/-!
# A document gives every key once

A reader of a configuration takes the keys of a document one after the other,
and a key that came twice would be given two values. That this cannot happen is
a property of how tables are built: every step either appends a key that the
table does not have yet, or changes what a key holds and leaves the key in its
place, or moves a key to the end.

Only the outermost table matters here. A step that works further inside changes
what one of its keys holds, so there is no induction over paths: the first key
of the path decides.

## Main definitions

* `Toml.Distinct`: A table has every key once.

## Theorems

* `Toml.distinct_append`, `Toml.distinct_replaceEntry`: What the steps do to the keys of a table.
* `Toml.distinct_updateAt`: A change at the end of a path.
* `Toml.keysDistinct_pairs?`: The keys of a document are distinct.
-/

namespace BpmpMailbox

namespace Toml

/-- A table has every key once. -/
def Distinct (entries : Entries) : Prop := (entries.map Prod.fst).Nodup

theorem distinct_replaceEntry {key : String} {node : Node} {entries : Entries}
    (h : Distinct entries) : Distinct (replaceEntry key node entries) := by
  have hkeys : (replaceEntry key node entries).map Prod.fst = entries.map Prod.fst := by
    rw [replaceEntry, List.map_map]
    refine List.map_congr_left fun e _ => ?_
    simp only [Function.comp_apply]
    split
    · exact Eq.symm ‹_›
    · rfl
  rwa [Distinct, hkeys]

theorem distinct_append {key : String} {node : Node} {entries : Entries} (h : Distinct entries)
    (hnew : key ∉ entries.map Prod.fst) : Distinct (entries ++ [(key, node)]) := by
  rw [Distinct, List.map_append, List.nodup_append]
  refine ⟨h, List.nodup_singleton _, fun other hother last hlast hsame => hnew ?_⟩
  rw [List.map_singleton, List.mem_singleton] at hlast
  rwa [hsame, hlast] at hother

theorem distinct_nil : Distinct [] := List.nodup_nil

/-- A key that a table does not hold is new to it. -/
theorem notMem_of_lookup {key : String} {entries : Entries} (h : entries.lookup key = none) :
    key ∉ entries.map Prod.fst := by
  intro hmem
  rcases List.mem_map.mp hmem with ⟨e, he, rfl⟩
  have hne := List.lookup_eq_none_iff.mp h e he
  simp only [bne_self_eq_false, Bool.false_eq_true] at hne

/-- A change at the end of a path keeps the keys distinct if it does so where
    it happens. -/
theorem distinct_updateAt {byDots : Bool} {change : Origin → Entries → Option Entries}
    (hchange : ∀ origin entries entries', Distinct entries →
      change origin entries = some entries' → Distinct entries')
    {path : List String} {origin : Origin} {entries entries' : Entries} (h : Distinct entries)
    (hupdate : updateAt byDots change path origin entries = some entries') :
    Distinct entries' := by
  cases path with
  | nil => exact hchange origin entries entries' h hupdate
  | cons key path =>
      rw [updateAt] at hupdate
      cases hlookup : entries.lookup key with
      | none =>
          simp only [hlookup, Option.bind_eq_bind, Option.bind_eq_some_iff, Option.pure_def,
            Option.some.injEq] at hupdate
          rcases hupdate with ⟨inner, -, rfl⟩
          exact distinct_append h (notMem_of_lookup hlookup)
      | some node =>
          -- The key is there and keeps its place, whatever it holds from now on.
          have hreplaced : ∃ node', entries' = replaceEntry key node' entries := by
            cases node with
            | value v => simp only [hlookup, reduceCtorEq] at hupdate
            | table made inner =>
                simp only [hlookup] at hupdate
                split at hupdate
                · cases hupdate
                · rcases Option.bind_eq_some_iff.mp hupdate with ⟨inner', -, hsome⟩
                  exact ⟨_, (Option.some.inj hsome).symm⟩
            | tables elements =>
                simp only [hlookup] at hupdate
                rcases Option.bind_eq_some_iff.mp hupdate with ⟨last, -, hrest⟩
                rcases Option.bind_eq_some_iff.mp hrest with ⟨last', -, hsome⟩
                exact ⟨_, (Option.some.inj hsome).symm⟩
          rcases hreplaced with ⟨node', rfl⟩
          exact distinct_replaceEntry h

/-- Steps that each keep the keys distinct do so together. -/
theorem distinct_foldlM {α : Type} {step : Entries → α → Option Entries}
    (hstep : ∀ entries a entries', Distinct entries → step entries a = some entries' →
      Distinct entries') : ∀ (as : List α) {entries entries' : Entries}, Distinct entries →
        as.foldlM step entries = some entries' → Distinct entries' := by
  intro as
  induction as with
  | nil =>
      intro entries entries' h hsteps
      rwa [← Option.some.inj hsteps]
  | cons a as ih =>
      intro entries entries' h hsteps
      rw [List.foldlM_cons] at hsteps
      rcases Option.bind_eq_some_iff.mp hsteps with ⟨entries₁, hfirst, hrest⟩
      exact ih (hstep entries a entries₁ h hfirst) hrest

theorem distinct_addPair {entries entries' : Entries} {path : List String} {key : String}
    {value : Value} (h : Distinct entries) (hadd : addPair entries path key value = some entries') :
    Distinct entries' := by
  refine distinct_updateAt (fun origin inner inner' hinner hchange => ?_) h hadd
  split at hchange
  · cases hchange
  · split at hchange
    · cases hchange
    · rename_i hfree
      rw [Option.not_isSome_iff_eq_none] at hfree
      rw [← Option.some.inj hchange]
      exact distinct_append hinner (notMem_of_lookup hfree)

theorem distinct_addTable {root root' : Entries} {path : List String} {key : String}
    {pairs : List Pair} (h : Distinct root) (hadd : addTable root path key pairs = some root') :
    Distinct root' := by
  refine distinct_updateAt (fun origin inner inner' hinner hchange => ?_) h hadd
  split at hchange
  · rename_i hfree
    rcases Option.bind_eq_some_iff.mp hchange with ⟨added, -, hsome⟩
    rw [← Option.some.inj hsome]
    exact distinct_append hinner (notMem_of_lookup hfree)
  · -- A table known as a parent is taken out and comes back at the end.
    rcases Option.bind_eq_some_iff.mp hchange with ⟨added, -, hsome⟩
    rw [← Option.some.inj hsome]
    refine distinct_append (hinner.sublist (List.filter_sublist.map _)) fun hmem => ?_
    rcases List.mem_map.mp hmem with ⟨e, he, hkey⟩
    exact of_decide_eq_true (List.mem_filter.mp he).2 hkey
  · cases hchange

theorem distinct_addElement {root root' : Entries} {path : List String} {key : String}
    {pairs : List Pair} (h : Distinct root) (hadd : addElement root path key pairs = some root') :
    Distinct root' := by
  refine distinct_updateAt (fun origin inner inner' hinner hchange => ?_) h hadd
  rcases Option.bind_eq_some_iff.mp hchange with ⟨added, -, hchange⟩
  split at hchange
  · rename_i hfree
    rw [← Option.some.inj hchange]
    exact distinct_append hinner (notMem_of_lookup hfree)
  · rw [← Option.some.inj hchange]
    exact distinct_replaceEntry hinner
  · cases hchange

theorem distinct_addSection {root root' : Entries} {s : Section} (h : Distinct root)
    (hadd : addSection root s = some root') : Distinct root' := by
  unfold addSection at hadd
  split at hadd
  · exact distinct_addElement h hadd
  · exact distinct_addTable h hadd

/-- The outermost table of a document has every key once. -/
theorem distinct_tableOfLines {found : List Line} {entries : Entries}
    (h : tableOfLines found = some entries) : Distinct entries := by
  rcases Option.bind_eq_some_iff.mp h with ⟨root, hroot, hsections⟩
  have hdistinct : Distinct root :=
    distinct_foldlM (fun _ _ _ => distinct_addPair) _ distinct_nil hroot
  exact distinct_foldlM (fun _ _ _ => distinct_addSection) _ hdistinct hsections

/-- Finishing the values of a table leaves its keys as they are. -/
theorem keys_entryValues (entries : Entries) :
    (entryValues entries).map Prod.fst = entries.map Prod.fst := by
  induction entries with
  | nil => rfl
  | cons e entries ih =>
      rcases e with ⟨key, node⟩
      rw [entryValues, List.map_cons, List.map_cons, ih]

/-- The keys of a document are distinct. -/
theorem keysDistinct_pairs? : Reader.KeysDistinct pairs? := by
  intro text pairs h
  rcases Option.bind_eq_some_iff.mp h with ⟨⟨found, rest⟩, -, hfound⟩
  rcases Option.bind_eq_some_iff.mp hfound with ⟨entries, hentries, hsome⟩
  rw [← Option.some.inj hsome, keys_entryValues]
  exact distinct_tableOfLines hentries

end Toml

end BpmpMailbox
