import Mathlib
import BpmpMailbox.Configuration.Document
import BpmpMailbox.Proofs.DocumentKeys

/-!
# What a configuration file says

A configuration is described by pairs of a key and a value. `Setting.Given`
says when a pair gives a setting a number, and `Offends` says what is wrong
with every other pair; both look at one pair and know nothing of the order in
which a document is read. From there the outcome of reading a document follows:
it is the configuration described by its pairs, or the offence of the first
pair that has one, or, when no pair has one, the refusal of a window that is
too small.

The numbers of a document are signed and have 64 bits, so a number that fits a
size is one that is not negative, and only the doorbell line has a limit of its
own.

Reading takes the keys one by one and overwrites what it has so far. Since no
key comes twice, a setting that was given a number keeps it until the end,
which is why the order of the keys decides about the offence that is reported
and about nothing else. That no key comes twice is all that is asked of the
reader of documents.

## Main definitions

* `Setting.get`: The number that a configuration has for a setting.
* `Setting.limit`: The first number that a setting does not take.
* `Setting.Given`: A pair gives a setting a number.
* `Accepted`, `Offends`: A pair is accepted, or why it is not.
* `Describes`: The configuration that pairs describe.
* `FirstOffence`: The first pair that is not accepted, and why.
* `Configuration.Reads`: What reading comes to.

## Theorems

* `accepted_or_offends`: Every pair is accepted or there is an offence.
* `Configuration.withPair_given`, `Configuration.withPair_offends`: One step of the reading.
* `Configuration.foldlM_describes`, `Configuration.foldlM_firstOffence`: All steps.
* `Configuration.reads_ofPairs`: Reading pairs with distinct keys.
* `Configuration.reads_readText`, `Configuration.readFile_cases`: Reading texts and files.
* `Configuration.read_exact`: Reading pairs, texts and files.
-/

namespace BpmpMailbox

namespace Setting

/-- The number that a configuration has for a setting. -/
def get : Setting → Configuration → Nat
  | .discoveryBlock, c => c.discoveryBlock
  | .semaphoreBlock, c => c.semaphoreBlock
  | .doorbellLine, c => c.doorbellLine.toNat
  | .areaWindow, c => c.areaWindow

/-- The first number that a setting does not take: a doorbell line has 32 bits,
    and the numbers of a document end at the largest signed one. -/
def limit : Setting → Nat
  | .doorbellLine => 0x100000000
  | _ => 0x8000000000000000

/-- The pair gives the setting a number. -/
def Given (f : Setting) (n : Nat) (pair : String × Toml.Value) : Prop :=
  pair.1 = f.name ∧ ∃ i : BitVec 64, pair.2 = .integer i ∧ i.toInt = n ∧ n < f.limit

theorem name_injective : ∀ {f g : Setting}, f.name = g.name → f = g := by
  intro f g
  cases f <;> cases g <;> simp [name]

theorem ofName?_name (f : Setting) : ofName? f.name = some f := by
  cases f <;> decide

theorem ofName?_eq_none {key : String} (h : ∀ f : Setting, f.name ≠ key) : ofName? key = none := by
  rw [ofName?, List.find?_eq_none]
  exact fun f _ => by simpa using h f

theorem get_set (f : Setting) {n : Nat} (h : n < f.limit) (c : Configuration) :
    f.get (f.set n c) = n := by
  cases f with
  | doorbellLine => exact (BitVec.toNat_ofNat n 32).trans (Nat.mod_eq_of_lt h)
  | discoveryBlock | semaphoreBlock | areaWindow => rfl

theorem get_set_of_ne {f g : Setting} (h : f ≠ g) (n : Nat) (c : Configuration) :
    f.get (g.set n c) = f.get c := by
  cases f with
  | discoveryBlock =>
      cases g with
      | discoveryBlock => exact absurd rfl h
      | semaphoreBlock | doorbellLine | areaWindow => rfl
  | semaphoreBlock =>
      cases g with
      | semaphoreBlock => exact absurd rfl h
      | discoveryBlock | doorbellLine | areaWindow => rfl
  | doorbellLine =>
      cases g with
      | doorbellLine => exact absurd rfl h
      | discoveryBlock | semaphoreBlock | areaWindow => rfl
  | areaWindow =>
      cases g with
      | areaWindow => exact absurd rfl h
      | discoveryBlock | semaphoreBlock | doorbellLine => rfl

end Setting

/-- A configuration is its four numbers. -/
theorem Configuration.ext_get {c d : Configuration} (h : ∀ f : Setting, f.get c = f.get d) :
    c = d := by
  rcases c with ⟨a, b, line, window⟩
  rcases d with ⟨a', b', line', window'⟩
  have hline : line = line' := BitVec.eq_of_toNat_eq (h .doorbellLine)
  have hblocks : a = a' ∧ b = b' := ⟨h .discoveryBlock, h .semaphoreBlock⟩
  have hwindow : window = window' := h .areaWindow
  rw [hline, hblocks.1, hblocks.2, hwindow]

/-- Why a pair is not accepted. -/
inductive Offends : String × Toml.Value → ConfigurationError → Prop where
  | unknownKey {key : String} {value : Toml.Value} (h : ∀ f : Setting, f.name ≠ key) :
    Offends (key, value) (.unknownKey key)
  | wrongType {f : Setting} {value : Toml.Value} (h : ∀ i, value ≠ .integer i) :
    Offends (f.name, value) (.wrongType value f.width)
  | outOfRange {f : Setting} {i : BitVec 64} (h : i.toInt < 0 ∨ f.limit ≤ i.toInt) :
    Offends (f.name, .integer i) (.outOfRange i.toInt f.width)

/-- The pair gives some setting a number. -/
def Accepted (pair : String × Toml.Value) : Prop := ∃ f : Setting, ∃ n, f.Given n pair

/-- Every pair is accepted or there is an offence. -/
theorem accepted_or_offends (pair : String × Toml.Value) :
    Accepted pair ∨ ∃ e, Offends pair e := by
  rcases pair with ⟨key, value⟩
  by_cases hknown : ∃ f : Setting, f.name = key
  · rcases hknown with ⟨f, rfl⟩
    by_cases hinteger : ∃ i, value = .integer i
    · rcases hinteger with ⟨i, rfl⟩
      by_cases hrange : i.toInt < 0 ∨ f.limit ≤ i.toInt
      · exact Or.inr ⟨_, .outOfRange hrange⟩
      · rw [not_or] at hrange
        exact Or.inl ⟨f, i.toInt.toNat, rfl, i, rfl, by omega, by omega⟩
    · exact Or.inr ⟨_, .wrongType (not_exists.mp hinteger)⟩
  · exact Or.inr ⟨_, .unknownKey (not_exists.mp hknown)⟩

/-- The limit of a setting is the one that its width has for signed numbers. -/
theorem Setting.lt_limit_iff (f : Setting) (i : BitVec 64) :
    i.toInt < f.limit ↔ i.toInt < f.width.limit := by
  have hsigned : i.toInt < 2 ^ 63 := BitVec.toInt_lt
  cases f <;> simp only [limit, width, NumberWidth.limit, addressLimit] <;> omega

/-- The configuration that pairs describe: each setting has the number that it is
    given, or the one it had before when no pair is about it. -/
structure Describes (base : Configuration) (pairs : List (String × Toml.Value))
    (c : Configuration) : Prop where
  given : ∀ pair ∈ pairs, ∃ f : Setting, ∃ n, f.Given n pair ∧ f.get c = n
  absent : ∀ f : Setting, f.name ∉ pairs.map Prod.fst → f.get c = f.get base

/-- Pairs in another order describe the same configuration. -/
theorem Describes.perm {base c : Configuration} {pairs pairs' : List (String × Toml.Value)}
    (hperm : pairs.Perm pairs') (h : Describes base pairs c) : Describes base pairs' c where
  given pair hpair := h.given pair (hperm.mem_iff.mpr hpair)
  absent f hf := h.absent f fun hmem => hf ((hperm.map Prod.fst).mem_iff.mp hmem)

/-- A pair gives its setting one number only. -/
theorem Setting.Given.unique {f g : Setting} {m n : Nat} {pair : String × Toml.Value}
    (h : f.Given m pair) (h' : g.Given n pair) : f = g ∧ m = n := by
  rcases h with ⟨hname, i, hi, hm, -⟩
  rcases h' with ⟨hname', j, hj, hn, -⟩
  have hij : i = j := Toml.Value.integer.inj (hi.symm.trans hj)
  refine ⟨Setting.name_injective (hname.symm.trans hname'), ?_⟩
  rw [hij, hn] at hm
  exact (Int.ofNat_inj.mp hm).symm

theorem Describes.accepted {base c : Configuration} {pairs : List (String × Toml.Value)}
    (h : Describes base pairs c) : ∀ pair ∈ pairs, Accepted pair := by
  intro pair hpair
  rcases h.given pair hpair with ⟨f, n, hgiven, -⟩
  exact ⟨f, n, hgiven⟩

/-- Pairs describe one configuration at most. -/
theorem Describes.unique {base c d : Configuration} {pairs : List (String × Toml.Value)}
    (hc : Describes base pairs c) (hd : Describes base pairs d) : c = d := by
  refine Configuration.ext_get fun f => ?_
  by_cases hf : f.name ∈ pairs.map Prod.fst
  · rcases List.mem_map.mp hf with ⟨pair, hpair, hname⟩
    rcases hc.given pair hpair with ⟨g, n, hgiven, hget⟩
    rcases hd.given pair hpair with ⟨g', n', hgiven', hget'⟩
    rcases hgiven.unique hgiven' with ⟨rfl, rfl⟩
    rw [Setting.name_injective (hname.symm.trans hgiven.1), hget, hget']
  · rw [hc.absent f hf, hd.absent f hf]

/-- The first pair that is not accepted, and why it is not. -/
def FirstOffence (pairs : List (String × Toml.Value)) (e : ConfigurationError) : Prop :=
  ∃ before pair after, pairs = before ++ pair :: after ∧
    (∀ other ∈ before, Accepted other) ∧ Offends pair e

/-- All pairs are accepted, or there is a first offence. -/
theorem accepted_or_firstOffence (pairs : List (String × Toml.Value)) :
    (∀ pair ∈ pairs, Accepted pair) ∨ ∃ e, FirstOffence pairs e := by
  induction pairs with
  | nil => exact Or.inl nofun
  | cons pair pairs ih =>
      rcases accepted_or_offends pair with haccepted | ⟨e, hoffends⟩
      · rcases ih with hrest | ⟨e, before, other, after, rfl, hbefore, hoffends⟩
        · exact Or.inl (List.forall_mem_cons.mpr ⟨haccepted, hrest⟩)
        · exact Or.inr ⟨e, pair :: before, other, after, rfl,
            List.forall_mem_cons.mpr ⟨haccepted, hbefore⟩, hoffends⟩
      · exact Or.inr ⟨e, [], pair, pairs, rfl, nofun, hoffends⟩

namespace Configuration

/-- A pair that gives a setting a number sets it. -/
theorem withPair_given {f : Setting} {n : Nat} {pair : String × Toml.Value} (h : f.Given n pair)
    (c : Configuration) : c.withPair pair = .ok (f.set n c) := by
  rcases pair with ⟨key, value⟩
  rcases h with ⟨rfl, i, rfl, hi, hlt⟩
  have hrange : 0 ≤ i.toInt ∧ i.toInt < f.width.limit :=
    ⟨by omega, (f.lt_limit_iff i).mp (by omega)⟩
  simp only [withPair, Setting.ofName?_name, numberOf, if_pos hrange]
  rw [hi, Int.toNat_natCast]

/-- A pair that is not accepted ends the reading, whatever was read before. -/
theorem withPair_offends {pair : String × Toml.Value} {e : ConfigurationError}
    (h : Offends pair e) (c : Configuration) : c.withPair pair = .error e := by
  cases h with
  | unknownKey h => simp only [withPair, Setting.ofName?_eq_none h]
  | @wrongType f value h =>
      cases value with
      | integer i => exact absurd rfl (h i)
      | _ => simp only [withPair, Setting.ofName?_name, numberOf]
  | @outOfRange f i h =>
      have hrange : ¬ (0 ≤ i.toInt ∧ i.toInt < f.width.limit) := fun hin => by
        have hlt := (f.lt_limit_iff i).mpr hin.2
        omega
      simp only [withPair, Setting.ofName?_name, numberOf, if_neg hrange]

/-- Pairs that are accepted, each key once, are read to the configuration that
    they describe. By induction on the pairs: what the first one sets is left
    alone by the others, because their keys are different ones. -/
theorem foldlM_describes : ∀ (pairs : List (String × Toml.Value)) (base : Configuration),
    (pairs.map Prod.fst).Nodup → (∀ pair ∈ pairs, Accepted pair) →
      ∃ c, pairs.foldlM withPair base = .ok c ∧ Describes base pairs c := by
  intro pairs
  induction pairs with
  | nil => exact fun base _ _ => ⟨base, rfl, nofun, fun _ _ => rfl⟩
  | cons pair pairs ih =>
      intro base hkeys haccepted
      rw [List.map_cons, List.nodup_cons] at hkeys
      rcases List.forall_mem_cons.mp haccepted with ⟨⟨f, n, hf⟩, hrest⟩
      rcases ih (f.set n base) hkeys.2 hrest with ⟨c, hfold, hdescribes⟩
      have hlimit : n < f.limit := by
        rcases hf with ⟨-, i, -, -, hlt⟩
        exact hlt
      have hget : f.get c = n := by
        rw [hdescribes.absent f (hf.1 ▸ hkeys.1), Setting.get_set f hlimit]
      refine ⟨c, ?_, List.forall_mem_cons.mpr ⟨⟨f, n, hf, hget⟩, hdescribes.given⟩, fun g hg => ?_⟩
      · rw [List.foldlM_cons, withPair_given hf]
        exact hfold
      · rw [List.map_cons, List.mem_cons, not_or, hf.1] at hg
        rw [hdescribes.absent g hg.2, Setting.get_set_of_ne fun hgf => hg.1 (congrArg _ hgf)]

/-- The first offence among the pairs is what reading them comes to. -/
theorem foldlM_firstOffence {pairs : List (String × Toml.Value)} {e : ConfigurationError}
    (h : FirstOffence pairs e) (base : Configuration) :
    pairs.foldlM withPair base = .error e := by
  rcases h with ⟨before, pair, after, rfl, hbefore, hoffends⟩
  induction before generalizing base with
  | nil =>
      rw [List.nil_append, List.foldlM_cons, withPair_offends hoffends]
      rfl
  | cons other before ih =>
      rcases List.forall_mem_cons.mp hbefore with ⟨⟨f, n, hf⟩, hrest⟩
      rw [List.cons_append, List.foldlM_cons, withPair_given hf]
      exact ih _ hrest

end Configuration

/-- Every offence is an error of the document. -/
theorem Offends.kind {pair : String × Toml.Value} {e : ConfigurationError} (h : Offends pair e) :
    e.kind = "Parse" := by
  cases h <;> rfl

namespace Configuration

/-- What reading pairs comes to. -/
structure Reads (pairs : List (String × Toml.Value))
    (result : Except ConfigurationError Configuration) : Prop where
  /-- A configuration is read when it is the one described and its window holds a message. -/
  accepted : ∀ c, result = .ok c ↔ Describes .standard pairs c ∧ messageSize ≤ c.areaWindow
  /-- Otherwise the first offence is reported, or a small window when there is no offence. -/
  refused : ∀ e, result = .error e ↔ FirstOffence pairs e ∨
    ∃ c, Describes .standard pairs c ∧ c.areaWindow < messageSize ∧
      e = .invalid (.windowTooSmall c.areaWindow messageSize)
  /-- There is a configuration described exactly when there is no offence. -/
  described : (∃ c, Describes .standard pairs c) ↔ ∀ pair ∈ pairs, Accepted pair
  /-- An offence is an error of the document. -/
  parse : ∀ e, FirstOffence pairs e → e.kind = "Parse"

section

variable {pairs : List (String × Toml.Value)}

theorem ofPairs_firstOffence {e : ConfigurationError} (h : FirstOffence pairs e) :
    ofPairs pairs = .error e := by
  rw [ofPairs, foldlM_firstOffence h]
  rfl

variable (hkeys : (pairs.map Prod.fst).Nodup)

include hkeys

/-- Only the window is left to be checked. -/
theorem ofPairs_describes {c : Configuration} (h : Describes .standard pairs c) :
    ofPairs pairs =
      if c.areaWindow < messageSize then
        .error (.invalid (.windowTooSmall c.areaWindow messageSize))
      else .ok c := by
  rcases foldlM_describes pairs .standard hkeys h.accepted with ⟨d, hfold, hd⟩
  rw [ofPairs, hfold, hd.unique h]
  simp only [bind, Except.bind, check]
  split_ifs with hsmall
  · rfl
  · rfl

theorem exists_describes_iff :
    (∃ c, Describes .standard pairs c) ↔ ∀ pair ∈ pairs, Accepted pair := by
  refine ⟨fun ⟨c, hc⟩ => hc.accepted, fun haccepted => ?_⟩
  rcases foldlM_describes pairs .standard hkeys haccepted with ⟨c, -, hc⟩
  exact ⟨c, hc⟩

/-- Reading pairs with distinct keys. -/
theorem reads_ofPairs : Reads pairs (ofPairs pairs) := by
  -- Of the two cases each has one outcome, and the outcomes are different ones.
  have hcases := accepted_or_firstOffence pairs
  rw [← exists_describes_iff hkeys] at hcases
  refine ⟨fun c => ⟨fun h => ?_, fun h => ?_⟩, fun e => ⟨fun h => ?_, fun h => ?_⟩,
    exists_describes_iff hkeys, ?_⟩
  · rcases hcases with ⟨d, hd⟩ | ⟨e, he⟩
    · rw [ofPairs_describes hkeys hd] at h
      split at h
      · cases h
      · rw [← Except.ok.inj h]
        exact ⟨hd, Nat.not_lt.mp ‹_›⟩
    · rw [ofPairs_firstOffence he] at h
      cases h
  · rw [ofPairs_describes hkeys h.1, if_neg (Nat.not_lt.mpr h.2)]
  · rcases hcases with ⟨d, hd⟩ | ⟨e', he⟩
    · rw [ofPairs_describes hkeys hd] at h
      split at h
      · exact Or.inr ⟨d, hd, ‹_›, (Except.error.inj h).symm⟩
      · cases h
    · rw [ofPairs_firstOffence he] at h
      exact Or.inl (Except.error.inj h ▸ he)
  · rcases h with hfirst | ⟨c, hc, hsmall, rfl⟩
    · exact ofPairs_firstOffence hfirst
    · rw [ofPairs_describes hkeys hc, if_pos hsmall]
  · rintro e ⟨before, pair, after, -, -, hoffends⟩
    exact hoffends.kind

end

/-- The bytes of a text. -/
def bytesOf (text : String) : List Byte := text.toUTF8.data.toList.map UInt8.toBitVec

/-- The bytes of a text encode it. -/
theorem textOf?_bytesOf (text : String) : textOf? (bytesOf text) = some text := by
  have hbytes : (⟨((bytesOf text).map UInt8.ofBitVec).toArray⟩ : ByteArray) = text.toByteArray := by
    have hround : (bytesOf text).map UInt8.ofBitVec = text.toByteArray.data.toList := by
      rw [bytesOf, List.map_map]
      exact List.map_id _
    rw [hround, Array.toArray_toList]
  unfold textOf?
  rw [hbytes, String.fromUTF8?, dif_pos text.isValidUTF8]
  rfl

/-- Texts with the same bytes are the same. -/
theorem bytesOf_injective {text text' : String} (h : bytesOf text = bytesOf text') :
    text = text' := by
  have htext := textOf?_bytesOf text
  rw [h, textOf?_bytesOf] at htext
  exact (Option.some.inj htext).symm

/-- Bytes that encode a text are the bytes of that text. -/
theorem bytesOf_textOf? {bytes : List Byte} {text : String} (h : textOf? bytes = some text) :
    bytesOf text = bytes := by
  unfold textOf? String.fromUTF8? at h
  split at h
  · rw [← Option.some.inj h]
    change ((bytes.map UInt8.ofBitVec).toArray.toList).map UInt8.toBitVec = bytes
    rw [List.toList_toArray, List.map_map]
    exact List.map_id _
  · cases h

/-- A file is read as the text that its bytes encode, and is an error when they
    encode none or when there are none. -/
theorem readFile_cases (read? : Toml.Reader) (file : FileContent) :
    (∃ text, file = .content (bytesOf text) ∧ readFile read? file = readText read? text) ∨
      (∀ text, file ≠ .content (bytesOf text)) ∧ ∃ e, readFile read? file = .error (.read e) := by
  cases file with
  | missing => exact Or.inr ⟨nofun, .missing, rfl⟩
  | directory => exact Or.inr ⟨nofun, .directory, rfl⟩
  | content bytes =>
      cases htext : textOf? bytes with
      | some text =>
          refine Or.inl ⟨text, by rw [bytesOf_textOf? htext], ?_⟩
          simp only [readFile, htext]
      | none =>
          refine Or.inr ⟨fun text heq => ?_, .notText, ?_⟩
          · rw [FileContent.content.inj heq, textOf?_bytesOf] at htext
            cases htext
          · simp only [readFile, htext]

section

variable {read? : Toml.Reader} (hread : read?.KeysDistinct)

include hread

/-- A document is read as its pairs are, and a text that is no document is an error. -/
theorem reads_readText (text : String) :
    match read? text with
    | some pairs => Reads pairs (readText read? text)
    | none => readText read? text = .error .document := by
  unfold readText
  cases hpairs : read? text with
  | none => rfl
  | some pairs => exact reads_ofPairs (hread text pairs hpairs)

/-- What is read from a text passes the check. -/
theorem check_of_readText {text : String} {c : Configuration} (h : readText read? text = .ok c) :
    c.check = .ok () := by
  have hreads := reads_readText hread text
  cases hpairs : read? text with
  | none => simp only [hpairs, h, reduceCtorEq] at hreads
  | some pairs =>
      simp only [hpairs] at hreads
      rw [check, if_neg (Nat.not_lt.mpr ((hreads.accepted c).mp h).2)]

/-- What is read from a file passes the check. -/
theorem check_of_readFile {file : FileContent} {c : Configuration}
    (h : readFile read? file = .ok c) : c.check = .ok () := by
  rcases readFile_cases read? file with ⟨text, -, htext⟩ | ⟨-, e, he⟩
  · exact check_of_readText hread (htext ▸ h)
  · rw [he] at h
    cases h

end

/-- What reading comes to, with any reader of documents that gives every key
    once. Pairs with distinct keys are read to the configuration that they
    describe, in whatever order they come, or to the first offence, or to a
    small window when there is no offence. A text is read as the pairs of its
    document, and a file as the text in it. What is read passes the check. -/
theorem read_exact {read? : Toml.Reader} (hread : read?.KeysDistinct) :
    (∀ pairs : List (String × Toml.Value), (pairs.map Prod.fst).Nodup →
      Reads pairs (ofPairs pairs) ∧
      ∀ pairs', pairs.Perm pairs' → ∀ c, ofPairs pairs = .ok c → ofPairs pairs' = .ok c) ∧
    (∀ text, match read? text with
      | some pairs => Reads pairs (readText read? text)
      | none => readText read? text = .error .document) ∧
    (∀ file, (∃ text, file = .content (bytesOf text) ∧
        readFile read? file = readText read? text) ∨
      (∀ text, file ≠ .content (bytesOf text)) ∧ ∃ e, readFile read? file = .error (.read e)) ∧
    (∀ text c, readText read? text = .ok c → c.check = .ok ()) ∧
    (∀ file c, readFile read? file = .ok c → c.check = .ok ()) := by
  refine ⟨fun pairs hkeys => ⟨reads_ofPairs hkeys, fun pairs' hperm c h => ?_⟩,
    reads_readText hread, readFile_cases read?, fun _ _ => check_of_readText hread,
    fun _ _ => check_of_readFile hread⟩
  have hkeys' : (pairs'.map Prod.fst).Nodup := (hperm.map Prod.fst).nodup_iff.mp hkeys
  rcases ((reads_ofPairs hkeys).accepted c).mp h with ⟨hdescribes, hwindow⟩
  exact ((reads_ofPairs hkeys').accepted c).mpr ⟨hdescribes.perm hperm, hwindow⟩

/-- With the reader that is run: in a file a key that is not known is reported
    before a window that is too small, and a text with its keys in another order
    than the standard one is read. -/
theorem read_exact_documents :
    ofFile (.content (bytesOf "area_window = 0x40\ndoorbel_line = 6\n")) =
        .error (.unknownKey "doorbel_line") ∧
      ofText "area_window = 0x100 # wide\ndoorbell_line = 6\n" = .ok ⟨0, 1, 6#32, 256⟩ := by
  have hpairs : (Toml.pairs? "area_window = 0x40\ndoorbel_line = 6\n",
      Toml.pairs? "area_window = 0x100 # wide\ndoorbell_line = 6\n") =
        (some [("area_window", .integer 64#64), ("doorbel_line", .integer 6#64)],
          some [("area_window", .integer 256#64), ("doorbell_line", .integer 6#64)]) := by cbv
  rcases Prod.mk.inj hpairs with ⟨hsmall, hwide⟩
  have hread := read_exact Toml.keysDistinct_pairs?
  unfold ofFile ofText
  -- From here on these two documents are all that matters of the reader.
  generalize Toml.pairs? = read? at hread hsmall hwide ⊢
  refine ⟨?_, ?_⟩
  · have htext := hread.2.1 "area_window = 0x40\ndoorbel_line = 6\n"
    rw [hsmall] at htext
    rcases hread.2.2.1 (.content (bytesOf "area_window = 0x40\ndoorbel_line = 6\n")) with
      ⟨text, hcontent, hfile⟩ | ⟨hnone, -⟩
    · rw [hfile, ← bytesOf_injective (FileContent.content.inj hcontent)]
      refine (htext.refused _).mpr (Or.inl ⟨[("area_window", .integer 64#64)],
        ("doorbel_line", .integer 6#64), [], rfl, ?_, .unknownKey fun f => ?_⟩)
      · intro other hother
        rw [List.mem_singleton.mp hother]
        exact ⟨.areaWindow, 64, rfl, 64#64, rfl, by decide, by decide⟩
      · cases f <;> decide
    · exact absurd rfl (hnone _)
  · have htext := hread.2.1 "area_window = 0x100 # wide\ndoorbell_line = 6\n"
    rw [hwide] at htext
    refine (htext.accepted _).mpr ⟨⟨fun pair hpair => ?_, fun f hf => ?_⟩, by decide⟩
    · rcases List.mem_pair.mp hpair with rfl | rfl
      · exact ⟨.areaWindow, 256, ⟨rfl, 256#64, rfl, by decide, by decide⟩, rfl⟩
      · exact ⟨.doorbellLine, 6, ⟨rfl, 6#64, rfl, by decide, by decide⟩, rfl⟩
    · -- The two settings that the text names are not absent, and the others are standard.
      cases f with
      | discoveryBlock | semaphoreBlock => rfl
      | doorbellLine | areaWindow => exact absurd (by decide) hf

end Configuration

end BpmpMailbox
