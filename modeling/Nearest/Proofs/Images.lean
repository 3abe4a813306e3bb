import Nearest.Proofs.Counts
import Nearest.Proofs.Loading

/-!
# Images of shards

An image has the live vectors of a shard, in the order of their slots (`Sound.mem_rows_image`), and
for each the expiry that its deadline stands for (`Sound.expiries_image`).

* `Shard.Reloaded s now later loaded` says what `loaded` has of `s` if the image was taken `now` and
  its file is loaded `later`.
* `Reached.load_image`: the file of an image loads, and this is what it gives.
* `Reloaded.bytes_image`: the image of what has been loaded has the same file again.
-/

namespace Nearest.Shard

open Snapshot (isKept)

variable {s : Shard} {now : Nat} {rows : List (String × List UInt32)}

/-- The expiry that an image gives a key: its deadline as a word. -/
def savedExpiry (s : Shard) (now : Nat) (key : String) : Option UInt64 :=
  (s.deadline? now key).map expiryOf

theorem toNat_expiryOf (deadline : Nat) :
    (expiryOf deadline).toNat = min deadline (2 ^ 64 - 1) := by
  rw [expiryOf, UInt64.toNat_ofNat']
  omega

theorem expiryOf_min (deadline : Nat) :
    expiryOf (min deadline (2 ^ 64 - 1)) = expiryOf deadline := by
  apply UInt64.toNat_inj.1
  rw [toNat_expiryOf, toNat_expiryOf]
  omega

/-- What a machine with addresses of 64 bits can hold. -/
structure Addressable (s : Shard) : Prop where
  size : s.store.size < 2 ^ 64
  keys : ∀ key, s.store.contains key = true → (Bytes.ofText key).length < 2 ^ 64

/-- What an image keeps of a key: its vector, up to the expiry. -/
def saved? (s : Shard) (now : Nat) (key : String) : Option Binding :=
  (s.vector? now key).map fun r => ⟨.vector r, (s.savedExpiry now key).map (·.toNat)⟩

namespace Sound

theorem columns_image (h : s.Sound) (now : Nat) : ∃ rows, (s.image now).1.store.Holds rows :=
  (h.purge now).1.columns

theorem vector?_eq_image (h : s.Sound) (now : Nat) (key : String) :
    s.vector? now key = (s.image now).1.store.get? key :=
  h.vector?_eq_purge now key

/-- The rows of an image are the live vectors. -/
theorem mem_rows_image (h : s.Sound) (hrows : (s.image now).1.store.Holds rows) {key : String}
    {v : List UInt32} : (key, v) ∈ rows ↔ s.vector? now key = some ⟨v⟩ := by
  rw [mem_iff_lookup hrows.distinct, h.vector?_eq_image, hrows.get?, Option.map_eq_some_iff]
  simp

theorem mem_keys_image (h : s.Sound) (hrows : (s.image now).1.store.Holds rows) {key : String} :
    key ∈ rows.map (·.1) ↔ (s.vector? now key).isSome := by
  rw [← lookup_isSome_iff_mem, h.vector?_eq_image, hrows.get?, Option.isSome_map]

/-- An image keeps the deadlines of the live vectors, as words. -/
theorem expiries_image (h : s.Sound) (now : Nat) (key : String) :
    (s.image now).1.expiries.get? key =
      if (s.vector? now key).isSome then s.savedExpiry now key else none := by
  obtain ⟨rows, hrows⟩ := h.columns_image now
  have hcontains := hrows.contains_eq_isSome key
  rw [savedExpiry, h.vector?_eq_image, h.deadline?_eq_purge, ← hcontains]
  have hlookup := lookup_map_snd
    ((s.purge now).2.deadlines.toList.filter fun x => (s.image now).1.store.contains x.1)
    expiryOf key
  rw [lookup_filter_key] at hlookup
  refine hlookup.trans ?_
  split <;> rfl

/-- As many vectors are counted as an image has. -/
theorem vectorCount_eq_size_image (h : s.Sound) (now : Nat) :
    s.vectorCount now = (s.image now).1.size := by
  obtain ⟨rows, hrows⟩ := h.columns_image now
  have hlive : {key | s.store.contains key = true ∧ ∀ d ∈ s.deadlines.get? key, now < d} =
      {key | key ∈ rows.map (·.1)} := by
    ext key
    rw [Set.mem_ofPred_eq, Set.mem_ofPred_eq, ← h.isSome_vector?, h.mem_keys_image hrows]
  have hcount := h.encard_vectors now
  rw [hlive, encard_of_nodup hrows.distinct, List.length_map] at hcount
  rw [Snapshot.Image.size, hrows.size]
  exact_mod_cast hcount.symm

theorem dimension_image (h : s.Sound) (now : Nat) :
    (s.image now).1.store.dimension = s.dimension := by
  have hpurge := (h.purge now).1.dimension
  rw [Shard.dimension, (h.purge now).2.1] at hpurge
  exact hpurge

theorem fits_image (h : s.Sound) (hdim : s.dimension.toNat < 2 ^ 32) (ha : s.Addressable)
    (now : Nat) : (s.image now).1.Fits := by
  obtain ⟨rows₀, hrows₀⟩ := h.columns
  obtain ⟨rows, hrows⟩ := h.columns_image now
  have hstoreDim := h.dimension_image now
  refine ⟨by rw [hstoreDim]; exact hdim, ?_, fun e he => ?_⟩
  · rw [← h.vectorCount_eq_size_image, vectorCount]
    have := ha.size
    omega
  · rw [Snapshot.Image.entries_eq, hrows.toList] at he
    obtain ⟨row, hrow, rfl⟩ := List.mem_map.1 he
    have hvector := (h.mem_rows_image hrows).1 hrow
    constructor
    · refine ha.keys row.1 ?_
      rw [hrows₀.contains_eq_isSome]
      unfold vector? at hvector
      split at hvector
      · cases hvector
      · rw [hvector]
        rfl
    · have hwidth := hrows.width row hrow
      rw [Store.width, hstoreDim] at hwidth
      show (Bytes.ofWords32 row.2).length < 2 ^ 64
      rw [Bytes.length_ofWords32]
      omega

end Sound

/-! ## What is loaded -/

/-- What is loaded later from the image of a shard: its live vectors without those whose expiry has
passed, in the same order, each with its deadline, and nothing else. -/
structure Reloaded (s : Shard) (now later : Nat) (loaded : Shard) : Prop where
  settings : loaded.settings = s.settings
  keys : ∀ key, loaded.store.contains key = true ↔
    (s.vector? now key).isSome ∧ ∀ e, s.savedExpiry now key = some e → later < e.toNat
  rows : loaded.store.toList =
    (s.image now).2.store.toList.filter (isKept (s.savedExpiry now) later)
  columns : ∀ key i j, s.store.slot? key = some i → loaded.store.slot? key = some j →
    loaded.store.vector j = s.store.vector i ∧ loaded.store.norm j = s.store.norm i
  deadlines : ∀ key, loaded.deadlines.get? key =
    if loaded.store.contains key then (s.deadline? now key).map (min · (2 ^ 64 - 1)) else none
  plain : loaded.plain.toList = []

/-- A shard with the saved vectors whose expiry has not passed, and their deadlines, holds what was
saved and is still live. -/
theorem binding?_eq_saved {loaded : Shard} {later : Nat} {key : String}
    (hget : loaded.store.get? key =
      if (s.savedExpiry now key).any (·.toNat ≤ later) then none else s.vector? now key)
    (hplain : loaded.plain.get? key = none)
    (hdeadline : loaded.deadlines.get? key =
      if (loaded.store.get? key).isSome then (s.savedExpiry now key).map (·.toNat) else none) :
    loaded.binding? key = (s.saved? now key).filter (·.isLive later) := by
  rw [Shard.binding?, hplain, hdeadline, hget, saved?]
  cases s.vector? now key with
  | none => simp [Binding.ofTables]
  | some r =>
    cases s.savedExpiry now key with
    | none => rfl
    | some e =>
      have hlive : Binding.isLive later ⟨.vector r, some e.toNat⟩ = decide (later < e.toNat) := rfl
      by_cases he : e.toNat ≤ later
      · rw [decide_eq_false (Nat.not_lt.2 he)] at hlive
        simp [Binding.ofTables, he, Option.filter, hlive]
      · rw [decide_eq_true (Nat.lt_of_not_le he)] at hlive
        simp [Binding.ofTables, he, Option.filter, hlive]

namespace Restored

variable {loaded : Shard} {later : Nat}

/-- The rows whose expiry has not passed, by their keys. -/
theorem lookup_kept (expiry : String → Option UInt64) (rows : List (String × List UInt32))
    (key : String) : (rows.filter (isKept expiry later)).lookup key =
      if (expiry key).any (·.toNat ≤ later) then none else rows.lookup key := by
  have hlookup := lookup_filter_key rows (fun k => !(expiry k).any (·.toNat ≤ later)) key
  refine hlookup.trans ?_
  cases (expiry key).any (·.toNat ≤ later) <;> rfl

theorem expiries_of_mem (h : s.Sound) (hrows : (s.image now).1.store.Holds rows)
    {row : String × List UInt32} (hrow : row ∈ rows) :
    (s.image now).1.expiries.get? row.1 = s.savedExpiry now row.1 := by
  rw [h.expiries_image, (h.mem_rows_image hrows).1 hrow]
  exact if_pos rfl

theorem filter_isKept (h : s.Sound) (hrows : (s.image now).1.store.Holds rows) :
    rows.filter (isKept (s.image now).1.expiries.get? later) =
      rows.filter (isKept (s.savedExpiry now) later) := by
  refine List.filter_congr fun row hrow => ?_
  rw [isKept, isKept, expiries_of_mem h hrows hrow]

section Loaded

variable {settings : Settings} (h : s.Sound) (hrows : (s.image now).1.store.Holds rows)
  (hr : loaded.Restored settings (s.image now).1.expiries.get?
    (rows.filter (isKept (s.image now).1.expiries.get? later)))
include h hrows hr

theorem get?_eq (key : String) : loaded.store.get? key =
    if (s.savedExpiry now key).any (·.toNat ≤ later) then none else s.vector? now key := by
  rw [hr.holds.get?, filter_isKept h hrows, lookup_kept, h.vector?_eq_image, hrows.get?]
  split <;> rfl

theorem deadlines_eq (key : String) : loaded.deadlines.get? key =
    if (loaded.store.get? key).isSome then (s.savedExpiry now key).map (·.toNat) else none := by
  have hmem : key ∈ (rows.filter (isKept (s.image now).1.expiries.get? later)).map (·.1) ↔
      (loaded.store.get? key).isSome = true := by
    rw [← hr.holds.contains_eq_isSome, hr.holds.contains, lookup_isSome_iff_mem]
  rw [hr.deadline_eq]
  by_cases hin : key ∈ (rows.filter (isKept (s.image now).1.expiries.get? later)).map (·.1)
  · rw [if_pos hin, if_pos (hmem.1 hin)]
    obtain ⟨row, hrow, rfl⟩ := List.mem_map.1 hin
    rw [expiries_of_mem h hrows (List.mem_filter.1 hrow).1]
  · rw [if_neg hin, if_neg (mt hmem.2 hin)]

/-- What has been loaded is what was saved and is still live. -/
theorem binding?_eq (key : String) :
    loaded.binding? key = (s.saved? now key).filter (·.isLive later) := by
  refine binding?_eq_saved (hr.get?_eq h hrows key) ?_ (hr.deadlines_eq h hrows key)
  rw [hr.plain_eq]
  rfl

end Loaded

theorem reloaded (h : s.Sound) (hrows : (s.image now).1.store.Holds rows)
    (hr : loaded.Restored s.settings (s.image now).1.expiries.get?
      (rows.filter (isKept (s.image now).1.expiries.get? later))) :
    s.Reloaded now later loaded := by
  have hcontains : ∀ key, loaded.store.contains key = true ↔
      (s.vector? now key).isSome ∧ ∀ e, s.savedExpiry now key = some e → later < e.toNat := by
    intro key
    rw [hr.holds.contains_eq_isSome, hr.get?_eq h hrows]
    cases s.savedExpiry now key with
    | none => simp
    | some e =>
      by_cases he : e.toNat ≤ later
      · simp [he, Nat.not_lt.2 he]
      · simp [he, Nat.lt_of_not_le he]
  refine ⟨hr.settings_eq, hcontains, ?_, ?_, ?_, ?_⟩
  · show _ = List.filter _ (s.image now).1.store.toList
    rw [hr.holds.toList, hrows.toList, filter_isKept h hrows]
  · intro key i j hi hj
    obtain ⟨rows₀, hrows₀⟩ := h.columns
    obtain ⟨hvi, hni⟩ := hrows₀.of_slot hi
    obtain ⟨hvj, hnj⟩ := hr.holds.of_slot hj
    have hsame : loaded.store.vector j = s.store.vector i := by
      rw [hr.get?_eq h hrows, vector?, hvi] at hvj
      split at hvj
      · cases hvj
      · split at hvj
        · cases hvj
        · exact (congrArg Record.components (Option.some.inj hvj)).symm
    exact ⟨hsame, by rw [hni, hnj, hsame]⟩
  · intro key
    rw [hr.deadlines_eq h hrows, ← hr.holds.contains_eq_isSome, savedExpiry, Option.map_map]
    exact if_congr Iff.rfl (congrArg (Option.map · _) (funext toNat_expiryOf)) rfl
  · rw [hr.plain_eq]

end Restored

/-- **What is loaded from the file of an image** is the shard at the moment of the image, without
the keys that have expired since. -/
theorem Reached.load_image (h : s.Reached) (hdim : s.dimension.toNat < 2 ^ 32)
    (ha : s.Addressable) (now later : Nat) :
    ∃ loaded, Shard.load s.settings later (some (s.image now).1.bytes) = .ok loaded ∧
      s.Reloaded now later loaded := by
  obtain ⟨rows, hrows⟩ := h.sound.columns_image now
  obtain ⟨loaded, hload, hrestored⟩ := load_bytes h.check (h.sound.fits_image hdim ha now)
    (h.sound.dimension_image now) hrows later
  exact ⟨loaded, hload, hrestored.reloaded h.sound hrows⟩

/-! ## Shards that an image keeps as they are -/

/-- An image keeps all of what is live in a shard if it holds nothing but vectors, and its counts
and times fit into words. -/
structure Storable (s : Shard) : Prop where
  size : s.store.size < 2 ^ 64
  key : ∀ key b, s.binding? key = some b → (Bytes.ofText key).length < 2 ^ 64
  vector : ∀ key b, s.binding? key = some b → b.vector?.isSome
  deadline : ∀ key b, s.binding? key = some b → ∀ d ∈ b.deadline, d < 2 ^ 64

namespace Storable

theorem addressable (hs : s.Storable) (h : s.Sound) : s.Addressable where
  size := hs.size
  keys key hkey := by
    obtain ⟨b, hb, -⟩ := h.contains_iff.1 hkey
    exact hs.key key b hb

/-- A shard that holds less is storable as well. -/
theorem mono (hs : s.Storable) (h : s.Sound) {s' : Shard} (h' : s'.Sound)
    (hsub : ∀ key b, s'.binding? key = some b → s.binding? key = some b) : s'.Storable where
  size := by
    refine Nat.lt_of_le_of_lt (h.size_le h' fun key hkey => ?_) hs.size
    obtain ⟨b, hb, hvector⟩ := h'.contains_iff.1 hkey
    exact h.contains_iff.2 ⟨b, hsub key b hb, hvector⟩
  key key b hb := hs.key key b (hsub key b hb)
  vector key b hb := hs.vector key b (hsub key b hb)
  deadline key b hb := hs.deadline key b (hsub key b hb)

theorem saved?_eq (hs : s.Storable) (h : s.Sound) (now : Nat) (key : String) :
    s.saved? now key = (s.binding? key).filter (·.isLive now) := by
  rw [saved?, savedExpiry, h.vector?_eq, h.deadline?_eq]
  cases hlive : (s.binding? key).filter (·.isLive now) with
  | none => rfl
  | some b =>
    have hb := (Option.filter_eq_some_iff.1 hlive).1
    have hvector := hs.vector key b hb
    have hdeadline := hs.deadline key b hb
    obtain ⟨_ | _, _ | d⟩ := b
    · rfl
    · have hd : (expiryOf d).toNat = d := by
        have := hdeadline d rfl
        rw [toNat_expiryOf]
        omega
      exact congrArg (fun d => some (Binding.mk _ (some d))) hd
    · cases hvector
    · cases hvector

end Storable

/-- **What is loaded is what was saved and is still live**, whatever the settings are otherwise, and
saving it again loses nothing. -/
theorem Sound.load_saved (h : s.Sound) (hdim : s.dimension.toNat < 2 ^ 32) (ha : s.Addressable)
    {settings : Settings} (hcheck : settings.check = .ok ())
    (hsame : settings.dimension = s.dimension) (now later : Nat) :
    ∃ loaded, Shard.load settings later (some (s.image now).1.bytes) = .ok loaded ∧
      loaded.Storable ∧
      ∀ key, loaded.binding? key = (s.saved? now key).filter (·.isLive later) := by
  obtain ⟨rows, hrows⟩ := h.columns_image now
  obtain ⟨loaded, hload, hrestored⟩ := load_bytes hcheck (h.fits_image hdim ha now)
    ((h.dimension_image now).trans hsame.symm) hrows later
  have hbinding := hrestored.binding?_eq h hrows
  have hsaved : ∀ key b, loaded.binding? key = some b → ∃ r, s.vector? now key = some r ∧
      b = ⟨.vector r, (s.savedExpiry now key).map (·.toNat)⟩ := by
    intro key b hb
    rw [hbinding, Option.filter_eq_some_iff, saved?, Option.map_eq_some_iff] at hb
    obtain ⟨⟨r, hr, rfl⟩, -⟩ := hb
    exact ⟨r, hr, rfl⟩
  have hcontains : ∀ key b, loaded.binding? key = some b → s.store.contains key = true := by
    intro key b hb
    obtain ⟨r, hr, -⟩ := hsaved key b hb
    exact (h.isSome_vector?.1 (Option.isSome_of_mem hr)).1
  have hloaded := (sound_load hload).1
  refine ⟨loaded, hload, ⟨?_, fun key b hb => ha.keys key (hcontains key b hb), fun key b hb => ?_,
    fun key b hb d hd => ?_⟩, hbinding⟩
  · refine Nat.lt_of_le_of_lt (h.size_le hloaded fun key hkey => ?_) ha.size
    obtain ⟨b, hb, -⟩ := hloaded.contains_iff.1 hkey
    exact hcontains key b hb
  · obtain ⟨r, -, rfl⟩ := hsaved key b hb
    rfl
  · obtain ⟨r, -, rfl⟩ := hsaved key b hb
    obtain ⟨e, -, rfl⟩ := Option.map_eq_some_iff.1 hd
    exact e.toNat_lt

namespace Reloaded

variable {loaded : Shard} {later : Nat}

/-- The vectors that are loaded are those that have not expired since the image was taken. -/
theorem get?_eq (hr : s.Reloaded now later loaded) (hl : loaded.Sound) (key : String) :
    loaded.store.get? key =
      if (s.savedExpiry now key).any (·.toNat ≤ later) then none else s.vector? now key := by
  obtain ⟨rows, hrows⟩ := hl.columns
  have hkeys := hr.keys key
  rw [hrows.contains_eq_isSome] at hkeys
  cases hget : loaded.store.get? key with
  | none =>
    rw [hget] at hkeys
    cases he : s.savedExpiry now key <;> cases hv : s.vector? now key <;> simp_all
  | some r =>
    obtain ⟨hsome, hlive⟩ := hkeys.1 (by rw [hget]; rfl)
    have hvector : s.vector? now key = s.store.get? key := by
      rw [vector?] at hsome ⊢
      split at hsome
      · cases hsome
      · exact if_neg ‹_›
    rw [if_neg, hvector]
    · rw [hvector, Store.get?, Option.isSome_map] at hsome
      obtain ⟨i, hi⟩ := Option.isSome_iff_exists.1 hsome
      obtain ⟨j, hj, rfl⟩ := Option.map_eq_some_iff.1 hget
      rw [Store.get?, hi, Option.map_some, (hr.columns key i j hi hj).1]
    · cases he : s.savedExpiry now key with
      | none => simp
      | some e => simpa using hlive e he

/-- What has been loaded is what was saved and is still live. -/
theorem binding?_eq (hr : s.Reloaded now later loaded) (hl : loaded.Sound) (key : String) :
    loaded.binding? key = (s.saved? now key).filter (·.isLive later) := by
  obtain ⟨rows, hrows⟩ := hl.columns
  refine binding?_eq_saved (hr.get?_eq hl key) ?_ ?_
  · rw [Table.get?, hr.plain]
    rfl
  · rw [hr.deadlines, hrows.contains_eq_isSome, savedExpiry, Option.map_map]
    exact if_congr Iff.rfl (congrArg (Option.map · _) (funext fun d => (toNat_expiryOf d).symm)) rfl

/-- Unless an expiry has passed, no loaded key is due. -/
theorem isDue_eq_false (hr : s.Reloaded now later loaded)
    (hlive : ∀ key e, s.savedExpiry now key = some e → later < e.toNat) (key : String) :
    loaded.isDue later key = false := by
  rw [isDue, hr.deadlines]
  split
  · cases hd : s.deadline? now key with
    | none => rfl
    | some d =>
      have := hlive key (expiryOf d) (by rw [savedExpiry, hd]; rfl)
      rw [toNat_expiryOf] at this
      simpa using this
  · rfl

/-- **Saving again** what has been loaded before any expiry has passed writes the same file. -/
theorem bytes_image (hr : s.Reloaded now later loaded) (h : s.Sound) (hl : loaded.Sound)
    (hlive : ∀ key e, s.savedExpiry now key = some e → later < e.toNat) :
    (loaded.image later).1.bytes = (s.image now).1.bytes := by
  have hdue := hr.isDue_eq_false hlive
  have hstore : (loaded.image later).1.store = loaded.store :=
    congrArg (fun x => x.2.store) (hl.purge_of_not_due hdue)
  obtain ⟨rows, hrows⟩ := h.columns_image now
  obtain ⟨rows', hrows'⟩ := hl.columns
  have hkept : ∀ row ∈ rows, isKept (s.savedExpiry now) later row = true := by
    intro row _
    unfold isKept
    cases he : s.savedExpiry now row.1 with
    | none => rfl
    | some e => simpa using hlive row.1 e he
  refine Snapshot.Image.bytes_congr ?_ ?_ fun row hrow => ?_
  · rw [hstore, hl.dimension, Shard.dimension, hr.settings, h.dimension_image]
    rfl
  · rw [hstore, hr.rows]
    show List.filter _ (s.image now).1.store.toList = _
    rw [hrows.toList, List.filter_eq_self.2 hkept]
  · rw [hrows.toList] at hrow
    have hvector := (h.mem_rows_image hrows).1 hrow
    have hin : loaded.store.contains row.1 = true :=
      (hr.keys row.1).2 ⟨by rw [hvector]; rfl, hlive row.1⟩
    have hsome : (loaded.vector? later row.1).isSome := by
      rw [vector?, hdue, if_neg Bool.false_ne_true, ← hrows'.contains_eq_isSome]
      exact hin
    have hdeadline : loaded.deadline? later row.1 =
        (s.deadline? now row.1).map (min · (2 ^ 64 - 1)) := by
      rw [deadline?, hr.deadlines, if_pos hin]
      cases hd : s.deadline? now row.1 with
      | none => rfl
      | some d =>
        have := hlive row.1 (expiryOf d) (by rw [savedExpiry, hd]; rfl)
        rw [toNat_expiryOf] at this
        exact Option.filter_some_pos (decide_eq_true this)
    rw [hl.expiries_image, if_pos hsome, Restored.expiries_of_mem h hrows hrow, savedExpiry,
      savedExpiry, hdeadline, Option.map_map]
    exact congrArg (Option.map · _) (funext expiryOf_min)

end Reloaded

/-! ## Shards of some vectors -/

/-- A shard that holds the vectors of a keyspace and nothing else is storable, if the counts and
times of the keyspace fit into words. -/
theorem Sound.storable_of_keyspace (h : s.Sound) {k : Keyspace} (hk : k.Distinct)
    (hb : ∀ key, s.binding? key = k.get? key) (hsize : k.size < 2 ^ 64)
    (hrows : ∀ row ∈ k.toList, (Bytes.ofText row.1).length < 2 ^ 64 ∧ row.2.vector?.isSome ∧
      ∀ d ∈ row.2.deadline, d < 2 ^ 64) : s.Storable := by
  have hrow : ∀ key b, s.binding? key = some b → (key, b) ∈ k.toList := fun key b hkey =>
    mem_of_lookup ((hb key).symm.trans hkey)
  refine ⟨?_, fun key b hkey => (hrows _ (hrow key b hkey)).1,
    fun key b hkey => (hrows _ (hrow key b hkey)).2.1,
    fun key b hkey => (hrows _ (hrow key b hkey)).2.2⟩
  rwa [h.size_eq_of_keyspace hk hb fun row hm => (hrows row hm).2.1]

/-- A shard with one vector that never expires. -/
theorem exists_single : ∃ u : Shard, u.Reached ∧ u.settings = { dimension := 1 } ∧ u.Storable ∧
    u.store.size = 1 ∧ (∀ key now, u.isDue now key = false) ∧
    ∀ now, u.vector? now "a" = some ⟨[0x3f800000]⟩ ∧ u.savedExpiry now "a" = none := by
  let k : Keyspace := ⟨[("a", ⟨.vector ⟨[0x3f800000]⟩, none⟩)]⟩
  obtain ⟨u, hu, hset, hb⟩ := exists_reached (rfl : Settings.check { dimension := 1 } = .ok ()) k
    (by decide)
  have hk : k.Distinct := List.nodup_singleton "a"
  have hlive : ∀ key now, (u.binding? key).filter (·.isLive now) = u.binding? key := by
    intro key now
    cases hkey : u.binding? key with
    | none => rfl
    | some b =>
      have hrow := mem_of_lookup ((hb key).symm.trans hkey)
      obtain ⟨rfl, rfl⟩ := Prod.mk.inj (List.mem_singleton.1 hrow)
      rfl
  refine ⟨u, hu, hset, hu.sound.storable_of_keyspace hk hb (by decide) (by decide),
    hu.sound.size_eq_of_keyspace hk hb (by decide), fun key now => hu.sound.isDue_eq_false
      (hlive key now), fun now => ⟨?_, ?_⟩⟩
  · rw [hu.sound.vector?_eq, hlive, hb]
    rfl
  · rw [savedExpiry, hu.sound.deadline?_eq, hlive, hb]
    rfl

end Nearest.Shard
