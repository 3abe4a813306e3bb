import Nearest.Proofs.Fields
import Nearest.Snapshot

/-!
# Snapshots are read as they were written

`walk_bytes`: walking through the file of an image hands the entries of the image to the sink, in
their order, and succeeds if the sink takes each of them. The counts in the file are words of 64
bits, which is what `Image.Fits` asks for.
-/

namespace Nearest.Snapshot

/-! ## Header and entries -/

/-- A header is read field by field, after the bytes that mark a snapshot. -/
theorem Header.read_of_fields {b b₁ b₂ b₃ : Bytes} {version dimension : UInt32} {count : UInt64}
    (hversion : Field.word32 b = .ok (version, b₁))
    (hdimension : Field.word32 b₁ = .ok (dimension, b₂))
    (hcount : Field.word64 b₂ = .ok (count, b₃)) :
    Header.read (Snapshot.magic ++ b) =
      .ok ({ magic := Snapshot.magic, version, dimension, count }, b₃) := by
  simp only [Snapshot.magic, List.cons_append, List.nil_append, Header.read, hversion, hdimension,
    hcount, bind, Except.bind, pure, Except.pure]

theorem Header.read_bytes {h : Header} (hm : h.magic = Snapshot.magic) (rest : Bytes) :
    Header.read (h.bytes ++ rest) = .ok (h, rest) := by
  obtain ⟨_, version, dimension, count⟩ := h
  obtain rfl : _ = Snapshot.magic := hm
  simp only [Header.bytes, List.append_assoc]
  exact Header.read_of_fields (Field.word32_ofWord32 version _)
    (Field.word32_ofWord32 dimension _) (Field.word64_ofWord64 count rest)

/-- The lengths in an entry fit into their words. -/
structure Entry.Fits (e : Entry) : Prop where
  key : (Bytes.ofText e.key).length < 2 ^ 64
  data : e.data.length < 2 ^ 64

/-- An entry is read field by field. -/
theorem Entry.read_of_fields {b b₁ b₂ b₃ b₄ : Bytes} {key : String} {dimension : UInt32}
    {data : Bytes} {expiresAt : Option UInt64} (hkey : Field.text b = .ok (key, b₁))
    (hdimension : Field.word32 b₁ = .ok (dimension, b₂)) (hdata : Field.blob b₂ = .ok (data, b₃))
    (hexpiresAt : Field.optional Field.word64 b₃ = .ok (expiresAt, b₄)) :
    Entry.read b = .ok ({ key, dimension, data, expiresAt }, b₄) := by
  simp only [Entry.read, hkey, hdimension, hdata, hexpiresAt, bind, Except.bind, pure, Except.pure]

theorem Entry.read_bytes {e : Entry} (h : e.Fits) (rest : Bytes) :
    Entry.read (e.bytes ++ rest) = .ok (e, rest) := by
  have hsplit : e.bytes ++ rest = Field.ofText e.key ++ (Bytes.ofWord32 e.dimension ++
      (Field.ofBlob e.data ++ (Field.ofOptional Bytes.ofWord64 e.expiresAt ++ rest))) := by
    simp only [Entry.bytes, List.append_assoc]
  rw [hsplit]
  exact Entry.read_of_fields (Field.text_ofText h.key _) (Field.word32_ofWord32 e.dimension _)
    (Field.blob_ofBlob h.data _)
    (Field.optional_ofOptional Field.word64_ofWord64 e.expiresAt rest)

/-! ## Entries in a row -/

variable {σ : Type} {sink : Sink σ}

/-- The state after an entry that the sink takes. -/
def taken (sink : Sink σ) (state : σ) (e : Entry) : Option σ :=
  match sink state e with
  | (.ok (), state) => some state
  | (.error _, _) => none

theorem eq_ok_of_taken {state state' : σ} {e : Entry} (h : taken sink state e = some state') :
    sink state e = (.ok (), state') := by
  unfold taken at h
  split at h
  · rename_i heq
    rw [heq, Option.some.inj h]
  · cases h

theorem handOut_bytes {entries : List Entry} (hfits : ∀ e ∈ entries, e.Fits) {state state' : σ}
    (h : entries.foldlM (taken sink) state = some state') (rest : Bytes) (index : Nat) :
    handOut sink state (entries.flatMap Entry.bytes ++ rest) entries.length index =
      (.ok rest, state') := by
  induction entries generalizing state index with
  | nil =>
    cases h
    rfl
  | cons e entries ih =>
    obtain ⟨he, hentries⟩ := List.forall_mem_cons.1 hfits
    rw [List.foldlM_cons, Option.bind_eq_bind, Option.bind_eq_some_iff] at h
    obtain ⟨next, hnext, hrest⟩ := h
    rw [List.flatMap_cons, List.append_assoc, List.length_cons, handOut, Entry.read_bytes he]
    simp only [eq_ok_of_taken hnext]
    exact ih hentries hrest (index + 1)

/-! ## Files -/

/-- A row with its expiry, as an entry. -/
def entryOf (expiry : String → Option UInt64) (row : String × List UInt32) : Entry where
  key := row.1
  dimension := UInt32.ofNat row.2.length
  data := Bytes.ofWords32 row.2
  expiresAt := expiry row.1

theorem Image.entries_eq (i : Image) : i.entries = i.store.toList.map (entryOf i.expiries.get?) :=
  rfl

/-- The counts in the file of an image fit into their words. -/
structure Image.Fits (i : Image) : Prop where
  dimension : i.store.dimension.toNat < 2 ^ 32
  size : i.size < 2 ^ 64
  entries : ∀ e ∈ i.entries, e.Fits

theorem Image.length_entries (i : Image) : i.entries.length = i.size := by
  rw [entries, List.length_map, Store.toList, List.length_map, List.length_zipIdx,
    Array.length_toList, size, Store.size]

/-- The file of an image depends on its rows and their expiries. -/
theorem Image.bytes_congr {i j : Image} (hdim : i.store.dimension = j.store.dimension)
    (hrows : i.store.toList = j.store.toList)
    (hexpiries : ∀ row ∈ j.store.toList, i.expiries.get? row.1 = j.expiries.get? row.1) :
    i.bytes = j.bytes := by
  have hentries : i.entries = j.entries := by
    rw [entries_eq, entries_eq, hrows]
    refine List.map_congr_left fun row hrow => ?_
    rw [entryOf, entryOf, hexpiries row hrow]
  have hheader : i.header = j.header := by
    rw [header, header, ← length_entries, ← length_entries, hentries, hdim]
  rw [bytes, bytes, hentries, hheader]

theorem walk_bytes {image : Image} (hfits : image.Fits) {state state' : σ}
    (h : image.entries.foldlM (taken sink) state = some state') :
    walk sink state image.bytes image.store.dimension =
      (.ok (UInt64.ofNat image.size), state') := by
  have hdim : image.store.dimension.toUInt32.toUInt64 = image.store.dimension := by
    apply UInt64.toNat_inj.1
    rw [UInt32.toNat_toUInt64, UInt64.toNat_toUInt32]
    exact Nat.mod_eq_of_lt hfits.dimension
  have hopen : open? (image.header.bytes ++ image.entries.flatMap Entry.bytes)
      image.store.dimension = .ok (image.header, image.entries.flatMap Entry.bytes) := by
    rw [open?, Header.read_bytes rfl]
    simp [Image.header, hdim, version]
  have hcount : image.header.count.toNat = image.entries.length := by
    rw [Image.length_entries, Image.header, UInt64.toNat_ofNat']
    exact Nat.mod_eq_of_lt hfits.size
  have hall := handOut_bytes hfits.entries h [] 0
  rw [List.append_nil] at hall
  have hsealed := Checksum.unsealed_sealed (image.header.bytes ++ image.entries.flatMap Entry.bytes)
  rw [← hcount] at hall
  have hheader : image.header.count = UInt64.ofNat image.size := rfl
  rw [← hheader, Image.bytes]
  generalize image.header = header at *
  generalize image.entries.flatMap Entry.bytes = b₁ at *
  generalize header.bytes ++ b₁ = b₂ at *
  generalize Checksum.sealed b₂ = file at *
  simp only [walk, hsealed, bind, Except.bind, hopen, hall]

end Nearest.Snapshot
