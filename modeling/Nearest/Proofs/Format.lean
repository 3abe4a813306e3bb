import Nearest.Proofs.Snapshot

/-!
# The format of snapshots

A walk through a file succeeds on nothing but files: `walk_bytes` says that what was written is
read, this module that only what was written is.

* `file h entries` is the file with a header and entries, `encode version dimension entries` the one
  that entries are written as in a version; the file of an image is one of these
  (`Image.bytes_eq_encode`). How long they are is `length_file`.
* `Entry.exact_read`, `handOut_eq_ok_iff`, `open?_eq_ok_iff` and `walk_eq_ok_iff` say of each reader
  on which bytes it succeeds.
* `walk_collect_iff_file` is what this means for a sink that takes every entry.
-/

namespace Nearest.Snapshot

/-! ## Header and entries -/

theorem Header.eq_bytes_of_read {b rest : Bytes} {h : Header}
    (hread : Header.read b = .ok (h, rest)) : b = h.bytes ++ rest := by
  match b, hread with
  | m₀ :: m₁ :: m₂ :: m₃ :: b₁, hread =>
    obtain ⟨version, b₂, -, rfl, h₁⟩ := Field.exact_word32.of_bind hread
    obtain ⟨dimension, b₃, -, rfl, h₂⟩ := Field.exact_word32.of_bind h₁
    obtain ⟨count, b₄, -, rfl, h₃⟩ := Field.exact_word64.of_bind h₂
    cases h₃
    simp [Header.bytes]

theorem Entry.exact_read : Field.Exact Entry.read Entry.bytes Entry.Fits := by
  intro b e rest
  constructor
  · intro hread
    obtain ⟨key, b₁, hkey, rfl, h₁⟩ := Field.exact_text.of_bind hread
    obtain ⟨dimension, b₂, -, rfl, h₂⟩ := Field.exact_word32.of_bind h₁
    obtain ⟨data, b₃, hdata, rfl, h₃⟩ := Field.exact_blob.of_bind h₂
    obtain ⟨expiresAt, b₄, -, rfl, h₄⟩ :=
      (Field.exact_optional Field.exact_word64).of_bind h₃
    cases h₄
    exact ⟨⟨hkey, hdata⟩, by simp [Entry.bytes]⟩
  · rintro ⟨hfits, rfl⟩
    exact Entry.read_bytes hfits rest

/-! ## Entries in a row -/

section HandOut

variable {σ : Type} {sink : Sink σ}

theorem taken_eq_some_iff {state state' : σ} {e : Entry} :
    taken sink state e = some state' ↔ sink state e = (.ok (), state') := by
  refine ⟨eq_ok_of_taken, fun h => ?_⟩
  rw [taken, h]

/-- Entries are handed out to the end iff the body is these entries and what is left. -/
theorem handOut_eq_ok_iff {state state' : σ} {body rest : Bytes} {left index : Nat} :
    handOut sink state body left index = (.ok rest, state') ↔
      ∃ entries : List Entry, entries.length = left ∧ (∀ e ∈ entries, e.Fits) ∧
        body = entries.flatMap Entry.bytes ++ rest ∧
        entries.foldlM (taken sink) state = some state' := by
  constructor
  · intro h
    induction left generalizing state body index with
    | zero =>
      cases h
      exact ⟨[], rfl, by simp, rfl, rfl⟩
    | succ left ih =>
      unfold handOut at h
      split at h
      · cases h
      · rename_i e b₁ hread
        obtain ⟨hfits, rfl⟩ := (Entry.exact_read _ _ _).1 hread
        split at h
        · cases h
        · rename_i next hsink
          obtain ⟨entries, hlength, hentries, rfl, hfold⟩ := ih h
          refine ⟨e :: entries, by rw [List.length_cons, hlength],
            List.forall_mem_cons.2 ⟨hfits, hentries⟩, ?_, ?_⟩
          · rw [List.flatMap_cons, List.append_assoc]
          · rw [List.foldlM_cons, taken_eq_some_iff.2 hsink]
            exact hfold
  · rintro ⟨entries, rfl, hfits, rfl, hfold⟩
    exact handOut_bytes hfits hfold rest index

end HandOut

/-! ## Files -/

/-- A header that a file for this dimension may have. -/
structure Header.Opens (h : Header) (dimension : UInt64) : Prop where
  magic : h.magic = Snapshot.magic
  version : h.version ≤ Snapshot.version
  dimension : h.dimension.toUInt64 = dimension

theorem open?_eq_ok_iff {body rest : Bytes} {dimension : UInt64} {h : Header} :
    open? body dimension = .ok (h, rest) ↔ h.Opens dimension ∧ body = h.bytes ++ rest := by
  constructor
  · intro hopen
    unfold open? at hopen
    split at hopen
    · cases hopen
    · rename_i h' rest' hread
      split at hopen
      · cases hopen
      split at hopen
      · cases hopen
      split at hopen
      · cases hopen
      rename_i hmagic hversion hdimension
      cases hopen
      have hopens : h.Opens dimension :=
        ⟨Decidable.not_not.1 hmagic, UInt32.not_lt.1 hversion, Decidable.not_not.1 hdimension⟩
      exact ⟨hopens, Header.eq_bytes_of_read hread⟩
  · rintro ⟨⟨hmagic, hversion, hdimension⟩, rfl⟩
    rw [open?, Header.read_bytes hmagic]
    simp only [hmagic, hdimension, ne_eq, not_true_eq_false, if_false,
      if_neg (UInt32.not_lt.2 hversion)]

/-- The file with this header and these entries. -/
def file (h : Header) (entries : List Entry) : Bytes :=
  Checksum.sealed (h.bytes ++ entries.flatMap Entry.bytes)

theorem unseal_open?_eq_ok_iff {b rest : Bytes} {dimension : UInt64} {h : Header} :
    (Checksum.unsealed b >>= (open? · dimension)) = .ok (h, rest) ↔
      h.Opens dimension ∧ b = Checksum.sealed (h.bytes ++ rest) := by
  constructor
  · intro hopen
    cases hframe : Checksum.unsealed b with
    | error why =>
      rw [hframe] at hopen
      cases hopen
    | ok body =>
      rw [hframe] at hopen
      obtain ⟨hopens, rfl⟩ := open?_eq_ok_iff.1 hopen
      exact ⟨hopens, Checksum.unsealed_eq_ok_iff.1 hframe⟩
  · rintro ⟨hopens, rfl⟩
    rw [Checksum.unsealed_sealed]
    exact open?_eq_ok_iff.2 ⟨hopens, rfl⟩

theorem walk_eq_ok_iff {σ : Type} {sink : Sink σ} {state state' : σ} {b : Bytes}
    {dimension n : UInt64} :
    walk sink state b dimension = (.ok n, state') ↔
      ∃ (h : Header) (entries : List Entry), h.Opens dimension ∧ h.count = n ∧
        entries.length = n.toNat ∧ (∀ e ∈ entries, e.Fits) ∧ b = file h entries ∧
        entries.foldlM (taken sink) state = some state' := by
  constructor
  · intro hwalk
    unfold walk at hwalk
    split at hwalk
    · cases hwalk
    · rename_i h rest hopen
      obtain ⟨hopens, rfl⟩ := unseal_open?_eq_ok_iff.1 hopen
      split at hwalk
      · cases hwalk
      · rename_i hall
        cases hwalk
        obtain ⟨entries, hlength, hfits, rfl, hfold⟩ := handOut_eq_ok_iff.1 hall
        rw [List.append_nil]
        exact ⟨h, entries, hopens, rfl, hlength, hfits, rfl, hfold⟩
      · cases hwalk
  · rintro ⟨h, entries, hopens, rfl, hlength, hfits, rfl, hfold⟩
    have hall : handOut sink state (entries.flatMap Entry.bytes) h.count.toNat 0 =
        (.ok [], state') :=
      handOut_eq_ok_iff.2 ⟨entries, hlength, hfits, (List.append_nil _).symm, hfold⟩
    rw [walk, file, unseal_open?_eq_ok_iff.2 ⟨hopens, rfl⟩]
    simp only [hall]

/-! ## Sinks that take every entry -/

/-- A sink that takes every entry and keeps them in their order. -/
def collect : Sink (List Entry) := fun entries e =>
  (.ok (), entries ++ [e])

theorem foldlM_taken_collect (entries kept : List Entry) :
    entries.foldlM (taken collect) kept = some (kept ++ entries) := by
  induction entries generalizing kept with
  | nil => simp
  | cons e entries ih =>
    rw [List.foldlM_cons, taken_eq_some_iff.2 rfl, List.append_cons kept e entries]
    exact ih (kept ++ [e])

section Accepting

variable {σ : Type} {sink : Sink σ} (hsink : ∀ state e, (sink state e).1 = .ok ())
include hsink

/-- A sink that never refuses is handed what is collected. -/
theorem handOut_eq_collect (state : σ) (kept : List Entry) (body : Bytes) (left index : Nat) :
    ∃ result entries, handOut collect kept body left index = (result, kept ++ entries) ∧
      handOut sink state body left index =
        (result, entries.foldl (fun state e => (sink state e).2) state) := by
  induction left generalizing state kept body index with
  | zero => exact ⟨.ok body, [], by rw [List.append_nil]; rfl, rfl⟩
  | succ left ih =>
    unfold handOut
    cases Entry.read body with
    | error why => exact ⟨_, [], by rw [List.append_nil], rfl⟩
    | ok x =>
      obtain ⟨e, rest⟩ := x
      obtain ⟨next, he⟩ : ∃ next, sink state e = (.ok (), next) :=
        ⟨_, Prod.ext (hsink state e) rfl⟩
      obtain ⟨result, entries, hkept, hstate⟩ := ih next (kept ++ [e]) rest (index + 1)
      refine ⟨result, e :: entries, ?_, ?_⟩
      · rw [List.append_cons]
        exact hkept
      · rw [List.foldl_cons]
        simp only [he]
        exact hstate

theorem walk_eq_collect (state : σ) (b : Bytes) (dimension : UInt64) :
    walk sink state b dimension =
      ((walk collect [] b dimension).1,
        (walk collect [] b dimension).2.foldl (fun state e => (sink state e).2) state) := by
  unfold walk
  cases Checksum.unsealed b >>= (open? · dimension) with
  | error e => rfl
  | ok x =>
    obtain ⟨h, rest⟩ := x
    obtain ⟨result, entries, hkept, hstate⟩ :=
      handOut_eq_collect hsink state [] rest h.count.toNat 0
    simp only [hkept, hstate]
    rcases result with e | _ | _ <;> rfl

end Accepting

/-! ## The format -/

theorem Entry.length_bytes (e : Entry) :
    e.bytes.length =
      (Bytes.ofText e.key).length + e.data.length + e.expiresAt.elim 21 fun _ => 29 := by
  obtain ⟨key, dimension, data, expiresAt⟩ := e
  cases expiresAt <;> simp [bytes, Field.ofText, Field.ofBlob, Field.ofOptional] <;> omega

theorem Entry.length_bytes_ge (e : Entry) : 21 ≤ e.bytes.length := by
  rw [length_bytes]
  cases e.expiresAt <;> simp

theorem fits_of_length {entries : List Entry} (h : (entries.flatMap Entry.bytes).length < 2 ^ 64) :
    ∀ e ∈ entries, e.Fits := by
  intro e he
  obtain ⟨before, after, rfl⟩ := List.append_of_mem he
  rw [List.flatMap_append, List.flatMap_cons, List.length_append, List.length_append,
    Entry.length_bytes] at h
  exact ⟨by omega, by omega⟩

theorem Header.length_bytes {h : Header} (hmagic : h.magic = Snapshot.magic) :
    h.bytes.length = 20 := by
  rw [bytes, hmagic]
  rfl

/-- What a file has besides its entries are a header and a checksum. -/
theorem length_file {h : Header} (hmagic : h.magic = magic) (entries : List Entry) :
    (file h entries).length = 24 + (entries.flatMap Entry.bytes).length := by
  rw [file, Checksum.length_sealed, List.length_append, h.length_bytes hmagic]
  omega

/-- The header of a file for this dimension. -/
def header? (b : Bytes) (dimension : UInt64) : Option Header :=
  match Checksum.unsealed b >>= (open? · dimension) with
  | .ok (h, _) => some h
  | .error _ => none

theorem header?_file {h : Header} {dimension : UInt64} (hopens : h.Opens dimension)
    (entries : List Entry) : header? (file h entries) dimension = some h := by
  rw [header?, file, unseal_open?_eq_ok_iff.2 ⟨hopens, rfl⟩]

/-- The file of these entries in the layout of a version. -/
def encode (version : UInt32) (dimension : UInt64) (entries : List Entry) : Bytes :=
  file { magic, version, dimension := dimension.toUInt32, count := UInt64.ofNat entries.length }
    entries

/-- The file of an image is the one that its entries are written as in our version. -/
theorem Image.bytes_eq_encode (i : Image) :
    i.bytes = encode version i.store.dimension i.entries := by
  rw [encode, file, Image.length_entries]
  rfl

theorem Image.length_bytes (i : Image) :
    i.bytes.length = 24 + (i.entries.flatMap Entry.bytes).length := by
  rw [bytes_eq_encode]
  exact length_file rfl i.entries

/-- A file is the one that its entries are written as in its version. -/
theorem Header.Opens.file_eq_encode {h : Header} {dimension : UInt64} {entries : List Entry}
    (hopens : h.Opens dimension) (hcount : entries.length = h.count.toNat) :
    file h entries = encode h.version dimension entries := by
  have hdimension : dimension.toUInt32 = h.dimension := by
    rw [← hopens.dimension, UInt32.toUInt32_toUInt64]
  rw [encode, hdimension, hcount, UInt64.ofNat_toNat, ← hopens.magic]

theorem walk_collect_eq_ok_iff {b : Bytes} {dimension n : UInt64} {entries : List Entry} :
    walk collect [] b dimension = (.ok n, entries) ↔
      ∃ h : Header, h.Opens dimension ∧ h.count = n ∧ entries.length = n.toNat ∧
        (∀ e ∈ entries, e.Fits) ∧ b = file h entries := by
  rw [walk_eq_ok_iff]
  constructor
  · rintro ⟨h, entries', hopens, hcount, hlength, hfits, hfile, hfold⟩
    obtain rfl : entries' = entries := by
      rw [foldlM_taken_collect] at hfold
      exact Option.some.inj hfold
    exact ⟨h, hopens, hcount, hlength, hfits, hfile⟩
  · rintro ⟨h, hopens, hcount, hlength, hfits, hfile⟩
    exact ⟨h, entries, hopens, hcount, hlength, hfits, hfile, foldlM_taken_collect entries []⟩

/-- What has been walked through is the file that its entries are written as in its version. -/
theorem eq_encode_of_walk_collect {b : Bytes} {dimension n : UInt64} {entries : List Entry}
    (h : walk collect [] b dimension = (.ok n, entries)) :
    ∃ header, header? b dimension = some header ∧ b = encode header.version dimension entries := by
  obtain ⟨header, hopens, rfl, hlength, -, rfl⟩ := walk_collect_eq_ok_iff.1 h
  exact ⟨header, header?_file hopens entries, hopens.file_eq_encode hlength⟩

/-- **A walk accepts exactly the format.** A byte string is walked through to its end, handing out
these entries, iff it is a header for the dimension of a version that is known, with the count of
the entries, then the entries, all sealed, and nothing more; every sink that never refuses is handed
the same entries. So the file is the one that the entries are written as in its version, and no
other file of that version has the same entries. -/
theorem walk_collect_iff_file {b : Bytes} (hb : b.length < 2 ^ 64) (dimension : UInt64) :
    (∀ n entries, walk collect [] b dimension = (.ok n, entries) ↔
      ∃ h : Header, h.magic = magic ∧ h.version ≤ version ∧ h.dimension.toUInt64 = dimension ∧
        h.count = n ∧ entries.length = n.toNat ∧ b = file h entries) ∧
    (∀ (σ : Type) (sink : Sink σ), (∀ state e, (sink state e).1 = .ok ()) → ∀ state,
      walk sink state b dimension =
        ((walk collect [] b dimension).1,
          (walk collect [] b dimension).2.foldl (fun state e => (sink state e).2) state)) ∧
    ∀ n entries, walk collect [] b dimension = (.ok n, entries) →
      ∃ h, header? b dimension = some h ∧ b = encode h.version dimension entries ∧
        ∀ b' n' h', walk collect [] b' dimension = (.ok n', entries) →
          header? b' dimension = some h' → h'.version = h.version → b' = b := by
  refine ⟨fun n entries => ?_, fun σ sink hsink state => walk_eq_collect hsink state b dimension,
    fun n entries hwalk => ?_⟩
  · rw [walk_collect_eq_ok_iff]
    constructor
    · rintro ⟨h, hopens, hcount, hlength, -, hfile⟩
      exact ⟨h, hopens.magic, hopens.version, hopens.dimension, hcount, hlength, hfile⟩
    · rintro ⟨h, hmagic, hversion, hdimension, hcount, hlength, rfl⟩
      refine ⟨h, ⟨hmagic, hversion, hdimension⟩, hcount, hlength, fits_of_length ?_, rfl⟩
      rw [length_file hmagic] at hb
      omega
  · obtain ⟨h, hheader, hb⟩ := eq_encode_of_walk_collect hwalk
    refine ⟨h, hheader, hb, fun b' n' h' hwalk' hheader' hversion => ?_⟩
    obtain ⟨h₁, hheader₁, hb'⟩ := eq_encode_of_walk_collect hwalk'
    obtain rfl : h₁ = h' := Option.some.inj (hheader₁.symm.trans hheader')
    rw [hb', hb, hversion]

/-- A file of an older version with one entry, whose key expires. -/
theorem walk_collect_iff_file_older :
    (encode 0 2 [⟨"a", 7, [1, 2, 3], some 5⟩]).length < 2 ^ 64 ∧
      walk collect [] (encode 0 2 [⟨"a", 7, [1, 2, 3], some 5⟩]) 2 =
        (.ok 1, [⟨"a", 7, [1, 2, 3], some 5⟩]) := by
  have hlength : (encode 0 2 [⟨"a", 7, [1, 2, 3], some 5⟩]).length < 2 ^ 64 := by
    rw [encode, length_file rfl]
    decide
  refine ⟨hlength, ((walk_collect_iff_file hlength 2).1 1 _).2 ?_⟩
  exact ⟨_, rfl, by decide, rfl, rfl, rfl, rfl⟩

end Nearest.Snapshot
