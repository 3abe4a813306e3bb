import Nearest.Proofs.Damage
import Nearest.Proofs.Images

/-!
# What the readers let through

A checksum keeps damage out, but whoever seals a frame can put anything into it. This module says
of each reader exactly what it lets through.

* `Payload.decode_current_iff`: what comes after the frame of a payload is not looked at. But for
  that, the payload of a record is the only one that is decoded as the record.
* `Shard.load_iff_formed`: an entry of a snapshot is looked into unless its key has expired. The
  first that is then found not to hold a vector ends the loading.
* `Shard.Reached.walk_image_iff`: a file is for one dimension, the low half of the one that it was
  written for. This is the same dimension as long as it fits into 32 bits.
-/

namespace Nearest

/-! ## Payloads -/

namespace Payload

/-- The frame of a sealed payload, and what comes between it and the checksum. -/
def frame? (payload : Bytes) : Option (Frame × Bytes) :=
  match Checksum.unsealed payload with
  | .ok body => (Frame.read body).toOption
  | .error _ => none

theorem frame?_eq_some_iff {payload rest : Bytes} {f : Frame} :
    frame? payload = some (f, rest) ↔ f.Fits ∧ payload = Checksum.sealed (f.bytes ++ rest) := by
  constructor
  · intro h
    unfold frame? at h
    split at h
    · rename_i body hbody
      have hread : Frame.read body = .ok (f, rest) := by
        cases hr : Frame.read body with
        | error why =>
          rw [hr] at h
          cases h
        | ok x =>
          rw [hr] at h
          exact congrArg Except.ok (Option.some.inj h)
      obtain ⟨hfits, rfl⟩ := (Frame.exact_read _ _ _).1 hread
      exact ⟨hfits, Checksum.unsealed_eq_ok_iff.1 hbody⟩
    · cases h
  · rintro ⟨hfits, rfl⟩
    rw [frame?, Checksum.unsealed_sealed]
    simp only [(Frame.exact_read _ _ _).2 ⟨hfits, rfl⟩]
    rfl

/-- Decoding looks at the frame and at nothing after it. -/
theorem decode_eq_ok_iff {payload : Bytes} {dimension : UInt64} {r : Record} :
    decode payload dimension = .ok r ↔
      ∃ f rest, frame? payload = some (f, rest) ∧ ofFrame f dimension = .ok r := by
  constructor
  · intro h
    obtain ⟨body, hbody, h⟩ := exists_of_bind_ok h
    split at h
    · rename_i f rest hread
      refine ⟨f, rest, ?_, h⟩
      rw [frame?, hbody]
      simp only [hread]
      rfl
    · cases h
  · rintro ⟨f, rest, hframe, hf⟩
    obtain ⟨hfits, rfl⟩ := frame?_eq_some_iff.1 hframe
    rw [decode_of_read (Checksum.unsealed_sealed _) ((Frame.exact_read _ _ _).2 ⟨hfits, rfl⟩)]
    exact hf

/-- A payload is refused because it is corrupt, or because of its length. -/
theorem refused_of_decode {payload : Bytes} {dimension : UInt64} {e : Fault}
    (h : decode payload dimension = .error e) :
    (∃ why, e = .corrupt why) ∨ ∃ length, e = .vectorSize dimension length := by
  cases hbody : Checksum.unsealed payload with
  | error why =>
    rw [decode_of_unsealed_error hbody] at h
    cases h
    exact .inl (Checksum.corrupt_of_unsealed hbody)
  | ok body =>
    cases hread : Frame.read body with
    | error why =>
      rw [decode_of_read_error hbody hread] at h
      cases h
      exact .inl ⟨_, rfl⟩
    | ok x =>
      rw [decode_of_read hbody hread] at h
      unfold ofFrame Record.ofDeclared at h
      repeat' split at h
      · cases h
        exact .inl ⟨_, rfl⟩
      · cases h
        exact .inl ⟨_, rfl⟩
      · exact .inr ⟨_, (Record.ofBytes_eq_error_iff.1 h).2⟩
      · cases h
        exact .inl ⟨_, rfl⟩

/-- A frame holds a record iff it is the frame of the record, but for an older version. -/
theorem ofFrame_eq_ok_iff {f : Frame} {dimension : UInt64} {r : Record} :
    ofFrame f dimension = .ok r ↔ dimension.toNat < 2 ^ 32 ∧ r.dimension = dimension.toNat ∧
      f.version ≤ version ∧ f = { frameOf r with version := f.version } := by
  constructor
  · intro h
    unfold ofFrame at h
    split at h
    · cases h
    split at h
    · cases h
    rename_i htag hversion
    obtain ⟨rfl, hr, hbytes⟩ := Record.ofDeclared_eq_ok_iff.1 h
    have hdeclared : UInt32.ofNat r.dimension = f.dimension := by
      rw [hr, UInt32.toNat_toUInt64, UInt32.ofNat_toNat]
    refine ⟨?_, hr, UInt32.not_lt.1 hversion, ?_⟩
    · rw [UInt32.toNat_toUInt64]
      exact f.dimension.toNat_lt
    · rw [frameOf, hdeclared, hbytes, ← Decidable.not_not.1 htag]
  · rintro ⟨hdim, hr, hversion, hf⟩
    have htag : ¬f.tag ≠ typeTag := by
      rw [hf]
      exact fun h => h rfl
    rw [ofFrame, if_neg htag, if_neg (UInt32.not_lt.2 hversion), hf]
    exact Record.ofDeclared_bytes hr hdim

/-- **A payload is the one of its record up to what is not looked at.** A payload of the current
version is decoded as a record of a dimension iff it is the record's own payload with any bytes
between the frame and the checksum. So it is the record's own payload iff there are none, and two
such payloads of one record are the same iff they have the same bytes there. -/
theorem decode_current_iff (payload : Bytes) (dimension : UInt64) (r : Record) :
    (∀ rest, (decode payload dimension = .ok r ∧
        ∃ f, frame? payload = some (f, rest) ∧ f.version = version) ↔
      dimension.toNat < 2 ^ 32 ∧ r.dimension = dimension.toNat ∧
        payload = Checksum.sealed ((frameOf r).bytes ++ rest)) ∧
    (decode payload dimension = .ok r → ∀ f rest, frame? payload = some (f, rest) →
      f.version = version →
        (payload = encode r ↔ rest = []) ∧
        ∀ payload' f' rest', decode payload' dimension = .ok r →
          frame? payload' = some (f', rest') → f'.version = version →
            (payload' = payload ↔ rest' = rest)) := by
  have hiff : ∀ payload rest, (decode payload dimension = .ok r ∧
        ∃ f, frame? payload = some (f, rest) ∧ f.version = version) ↔
      dimension.toNat < 2 ^ 32 ∧ r.dimension = dimension.toNat ∧
        payload = Checksum.sealed ((frameOf r).bytes ++ rest) := by
    intro payload rest
    constructor
    · rintro ⟨hdecode, f, hframe, hversion⟩
      obtain ⟨f', rest', hframe', hf⟩ := decode_eq_ok_iff.1 hdecode
      rw [hframe] at hframe'
      cases hframe'
      obtain ⟨hdim, hr, -, hf⟩ := ofFrame_eq_ok_iff.1 hf
      rw [hversion] at hf
      obtain rfl : f = frameOf r := hf
      exact ⟨hdim, hr, (frame?_eq_some_iff.1 hframe).2⟩
    · rintro ⟨hdim, hr, rfl⟩
      have hframe : frame? (Checksum.sealed ((frameOf r).bytes ++ rest)) = some (frameOf r, rest) :=
        frame?_eq_some_iff.2 ⟨fits_frameOf (length_bytes_lt hr hdim), rfl⟩
      refine ⟨decode_eq_ok_iff.2 ⟨_, _, hframe, ?_⟩, _, hframe, rfl⟩
      exact ofFrame_eq_ok_iff.2 ⟨hdim, hr, UInt32.le_refl version, rfl⟩
  refine ⟨hiff payload, fun hdecode f rest hframe hversion => ?_⟩
  obtain ⟨hdim, hr, rfl⟩ := (hiff payload rest).1 ⟨hdecode, f, hframe, hversion⟩
  have hsame : ∀ rest', Checksum.sealed ((frameOf r).bytes ++ rest') =
      Checksum.sealed ((frameOf r).bytes ++ rest) ↔ rest' = rest := by
    refine fun rest' => ⟨fun h => ?_, fun h => by rw [h]⟩
    have hbody := Checksum.unsealed_sealed ((frameOf r).bytes ++ rest)
    rw [← h, Checksum.unsealed_sealed] at hbody
    exact List.append_cancel_left (Except.ok.inj hbody)
  refine ⟨?_, fun payload' f' rest' hdecode' hframe' hversion' => ?_⟩
  · rw [encode_eq, eq_comm, eq_comm (a := rest), ← hsame, List.append_nil]
  · obtain ⟨-, -, rfl⟩ := (hiff payload' rest').1 ⟨hdecode', f', hframe', hversion'⟩
    exact hsame rest'

/-- The payload of a record is the only one of it with nothing after its frame. -/
theorem decode_current_iff_own : decode (encode ⟨[7]⟩) 1 = .ok ⟨[7]⟩ ∧
    ∀ payload f rest, decode payload 1 = .ok ⟨[7]⟩ → frame? payload = some (f, rest) →
      f.version = version → (payload = encode ⟨[7]⟩ ↔ rest = []) := by
  obtain ⟨hiff, hunique⟩ := decode_current_iff (encode ⟨[7]⟩) 1 ⟨[7]⟩
  obtain ⟨hdecode, f, hframe, hversion⟩ := (hiff []).2
    ⟨by decide, rfl, by rw [encode_eq, List.append_nil]⟩
  exact ⟨hdecode, (hunique hdecode f [] hframe hversion).2⟩

/-- With one more byte before the checksum it is decoded as well. -/
theorem decode_padded :
    decode (Checksum.sealed ((frameOf ⟨[7]⟩).bytes ++ [0])) 1 = .ok ⟨[7]⟩ ∧
      frame? (Checksum.sealed ((frameOf ⟨[7]⟩).bytes ++ [0])) = some (frameOf ⟨[7]⟩, [0]) ∧
      (frameOf ⟨[7]⟩).version = version ∧
      Checksum.sealed ((frameOf ⟨[7]⟩).bytes ++ [0]) ≠ encode ⟨[7]⟩ := by
  have hframe : frame? (Checksum.sealed ((frameOf ⟨[7]⟩).bytes ++ [0])) =
      some (frameOf ⟨[7]⟩, [0]) := frame?_eq_some_iff.2 ⟨fits_frameOf (by decide), rfl⟩
  have hrecord : ofFrame (frameOf ⟨[7]⟩) 1 = .ok ⟨[7]⟩ :=
    ofFrame_eq_ok_iff.2 ⟨by decide, rfl, UInt32.le_refl version, rfl⟩
  refine ⟨decode_eq_ok_iff.2 ⟨_, _, hframe, hrecord⟩, hframe, rfl, fun h => ?_⟩
  have hlength := congrArg List.length h
  rw [encode_eq, Checksum.length_sealed, Checksum.length_sealed, List.length_append] at hlength
  simp at hlength

end Payload

/-! ## Entries of snapshots -/

namespace Snapshot

/-- Whether the key of an entry has expired. -/
def Entry.hasExpired (now : Nat) (e : Entry) : Bool :=
  e.expiresAt.any (·.toNat ≤ now)

/-- An entry that holds a vector of this dimension: it declares the dimension, and its data is as
long as that asks for. -/
structure Entry.Formed (e : Entry) (dimension : UInt64) : Prop where
  declared : e.dimension.toUInt64 = dimension
  length : e.data.length = 4 * dimension.toNat

theorem Entry.formed_iff {e : Entry} {dimension : UInt64} : e.Formed dimension ↔
    e.dimension.toUInt64 = dimension ∧ e.data.length = 4 * dimension.toNat :=
  ⟨fun h => ⟨h.declared, h.length⟩, fun h => ⟨h.1, h.2⟩⟩

instance (e : Entry) (dimension : UInt64) : Decidable (e.Formed dimension) :=
  decidable_of_iff _ Entry.formed_iff.symm

section OfferAll

variable {σ : Type} {sink : Sink σ}

/-- Hands entries to a sink, up to the first that it refuses. -/
def offerAll (sink : Sink σ) (state : σ) : List Entry → Except Fault Unit × σ
  | [] => (.ok (), state)
  | e :: entries =>
    match sink state e with
    | (.ok (), state) => offerAll sink state entries
    | (.error why, state) => (.error why, state)

theorem handOut_eq_offerAll {entries : List Entry} (hfits : ∀ e ∈ entries, e.Fits) (state : σ)
    (rest : Bytes) (index : Nat) :
    handOut sink state (entries.flatMap Entry.bytes ++ rest) entries.length index =
      ((offerAll sink state entries).1.map fun _ => rest, (offerAll sink state entries).2) := by
  induction entries generalizing state index with
  | nil => rfl
  | cons e entries ih =>
    obtain ⟨he, hentries⟩ := List.forall_mem_cons.1 hfits
    rw [List.flatMap_cons, List.append_assoc, List.length_cons, handOut, Entry.read_bytes he,
      offerAll]
    rcases hsink : sink state e with ⟨why | _, next⟩
    · simp only [hsink]
      rfl
    · simp only [hsink]
      exact ih hentries next (index + 1)

/-- A walk hands the entries of a file to the sink, whatever the sink does with them. -/
theorem walk_eq_offerAll {b : Bytes} {dimension n : UInt64} {entries : List Entry}
    (h : walk collect [] b dimension = (.ok n, entries)) (state : σ) :
    walk sink state b dimension =
      ((offerAll sink state entries).1.map fun _ => n, (offerAll sink state entries).2) := by
  obtain ⟨header, hopens, rfl, hlength, hfits, rfl⟩ := walk_collect_eq_ok_iff.1 h
  have hall : handOut sink state (entries.flatMap Entry.bytes ++ []) entries.length 0 = _ :=
    handOut_eq_offerAll hfits state [] 0
  rw [List.append_nil, hlength] at hall
  rw [walk, file, unseal_open?_eq_ok_iff.2 ⟨hopens, rfl⟩]
  simp only [hall]
  rcases offerAll sink state entries with ⟨_ | _, next⟩ <;> rfl

end OfferAll

end Snapshot

namespace Shard

open Snapshot (Entry offerAll)

variable {s : Shard} {now : Nat}

theorem receive_of_hasExpired {e : Entry} (h : e.hasExpired now = true) :
    receive now s e = (.ok (), s) :=
  if_pos h

/-- An entry that holds a vector is taken in. -/
theorem Sound.receive_of_formed (h : s.Sound) {e : Entry} (he : e.Formed s.dimension) :
    ∃ s', Shard.receive now s e = (.ok (), s') := by
  obtain ⟨hdeclared, hlength⟩ := he
  have hbytes : (Record.mk (Bytes.words32 e.data)).bytes = e.data :=
    Bytes.ofWords32_words32 (by omega)
  have hr : (Record.mk (Bytes.words32 e.data)).dimension = s.dimension.toNat := by
    rw [← hbytes, Record.length_bytes] at hlength
    omega
  have hrecord := Record.ofDeclared_eq_ok_iff.2 ⟨hdeclared, hr, hbytes⟩
  obtain ⟨s', hs', -⟩ := h.addRecord e.key hr
  unfold Shard.receive
  split
  · exact ⟨s, rfl⟩
  · rw [hrecord]
    simp only [hs']
    cases e.expiresAt <;> exact ⟨_, rfl⟩

/-- Any other is refused if its key has not expired. -/
theorem receive_of_not_formed {e : Entry} (hnow : e.hasExpired now = false)
    (he : ¬e.Formed s.dimension) :
    ∃ why, Record.ofDeclared e.dimension e.data s.dimension = .error why ∧
      receive now s e = (.error (.corruptRecord e.key why), s) := by
  cases hrecord : Record.ofDeclared e.dimension e.data s.dimension with
  | ok r =>
    obtain ⟨hdeclared, hr, hbytes⟩ := Record.ofDeclared_eq_ok_iff.1 hrecord
    refine absurd ⟨hdeclared, ?_⟩ he
    rw [← hbytes, ← hr, Record.length_bytes]
  | error why =>
    refine ⟨why, rfl, ?_⟩
    have hlive : ¬e.expiresAt.any (·.toNat ≤ now) = true := Bool.eq_false_iff.1 hnow
    rw [receive, if_neg hlive, hrecord]

/-- An entry that loading at a time does not get over. -/
def blocks (now : Nat) (dimension : UInt64) (e : Entry) : Bool :=
  !e.hasExpired now && !decide (e.Formed dimension)

/-- Entries are taken in up to the first that is in the way. -/
theorem Sound.offerAll_receive (h : s.Sound) (now : Nat) (entries : List Entry) :
    (entries.find? (blocks now s.dimension) = none →
      ∃ s', offerAll (Shard.receive now) s entries = (.ok (), s')) ∧
    ∀ e, entries.find? (blocks now s.dimension) = some e →
      ∃ why s', Record.ofDeclared e.dimension e.data s.dimension = .error why ∧
        offerAll (Shard.receive now) s entries = (.error (.corruptRecord e.key why), s') := by
  induction entries generalizing s with
  | nil => exact ⟨fun _ => ⟨s, rfl⟩, nofun⟩
  | cons e entries ih =>
    cases hblocks : blocks now s.dimension e with
    | true =>
      rw [List.find?_cons_of_pos hblocks]
      refine ⟨nofun, fun x hx => ?_⟩
      obtain rfl := Option.some.inj hx
      rw [blocks, Bool.and_eq_true, Bool.not_eq_true', Bool.not_eq_true', decide_eq_false_iff_not]
        at hblocks
      obtain ⟨why, hrecord, hreceive⟩ := receive_of_not_formed hblocks.1 hblocks.2
      exact ⟨why, s, hrecord, by rw [offerAll, hreceive]⟩
    | false =>
      rw [List.find?_cons_of_neg (by simp [hblocks])]
      obtain ⟨s', hs'⟩ : ∃ s', Shard.receive now s e = (.ok (), s') := by
        rw [blocks, Bool.and_eq_false_iff, Bool.not_eq_false', Bool.not_eq_false',
          decide_eq_true_eq] at hblocks
        rcases hblocks with hexpired | hformed
        · exact ⟨s, receive_of_hasExpired hexpired⟩
        · exact h.receive_of_formed hformed
      have hnext := h.receive now e
      rw [hs'] at hnext
      have hrest := ih hnext.1
      rw [Shard.dimension, hnext.2, ← Shard.dimension] at hrest
      rw [offerAll, hs']
      exact hrest

section Load

variable {settings : Settings} (hcheck : settings.check = .ok ()) {b : Bytes} {n : UInt64}
  {entries : List Entry}
  (hwalk : Snapshot.walk Snapshot.collect [] b settings.dimension = (.ok n, entries))
include hcheck hwalk

/-- A file loads unless one of its entries is in the way. -/
theorem load_eq_of_blocks (now : Nat) :
    (entries.find? (blocks now settings.dimension) = none →
      ∃ s, load settings now (some b) = .ok s) ∧
    ∀ e, entries.find? (blocks now settings.dimension) = some e →
      ∃ why, Record.ofDeclared e.dimension e.data settings.dimension = .error why ∧
        load settings now (some b) = .error (.corruptRecord e.key why) := by
  let s₀ : Shard := { settings, store := Store.empty settings.dimension }
  have hnew : new settings = .ok s₀ := by rw [new, hcheck]
  obtain ⟨hnone, hsome⟩ := (sound_empty settings).offerAll_receive now entries
  have hreceive : Snapshot.walk (receive now) s₀ b settings.dimension = _ :=
    Snapshot.walk_eq_offerAll hwalk s₀
  refine ⟨fun hfind => ?_, fun e hfind => ?_⟩
  · obtain ⟨s', hs'⟩ := hnone hfind
    rw [hs'] at hreceive
    refine ⟨s', ?_⟩
    rw [load, hnew]
    simp only [hreceive, Except.map]
  · obtain ⟨why, s', hrecord, hs'⟩ := hsome e hfind
    rw [hs'] at hreceive
    refine ⟨why, hrecord, ?_⟩
    rw [load, hnew]
    simp only [hreceive, Except.map]

/-- **Loading looks into the entries whose keys have not expired**, and into no others. A file that
can be walked through loads iff each of them holds a vector of the dimension. Otherwise the first
that does not is reported with its key, and a shard that is to be reloaded stays as it is. -/
theorem load_iff_formed (now : Nat) :
    ((∃ s, load settings now (some b) = .ok s) ↔
      ∀ e ∈ entries, e.hasExpired now = false → e.Formed settings.dimension) ∧
    ∀ before e after, entries = before ++ e :: after →
      (∀ x ∈ before, x.hasExpired now = false → x.Formed settings.dimension) →
      e.hasExpired now = false → ¬e.Formed settings.dimension →
      ∃ why, Record.ofDeclared e.dimension e.data settings.dimension = .error why ∧
        load settings now (some b) = .error (.corruptRecord e.key why) ∧
        ∀ s : Shard, s.settings = settings →
          s.reload now (some b) = (.error (.corruptRecord e.key why), s) := by
  obtain ⟨hnone, hsome⟩ := load_eq_of_blocks hcheck hwalk now
  have hfree : ∀ e : Entry, blocks now settings.dimension e = false ↔
      (e.hasExpired now = false → e.Formed settings.dimension) := by
    intro e
    rw [blocks]
    cases e.hasExpired now <;> simp
  refine ⟨⟨fun ⟨s, hs⟩ => ?_, fun hformed => ?_⟩, fun before e after hsplit hbefore hnow he => ?_⟩
  · cases hfind : entries.find? (blocks now settings.dimension) with
    | none =>
      intro e hmem
      exact (hfree e).1 (Bool.eq_false_iff.2 (List.find?_eq_none.1 hfind e hmem))
    | some e =>
      obtain ⟨why, -, herror⟩ := hsome e hfind
      rw [hs] at herror
      cases herror
  · refine hnone (List.find?_eq_none.2 fun e hmem => ?_)
    exact Bool.eq_false_iff.1 ((hfree e).2 (hformed e hmem))
  · have hblocks : blocks now settings.dimension e = true := by
      rw [blocks, hnow, decide_eq_false he]
      rfl
    have hfind : entries.find? (blocks now settings.dimension) = some e := by
      refine List.find?_eq_some_iff_append.2 ⟨hblocks, before, after, hsplit, fun x hx => ?_⟩
      rw [(hfree x).2 (hbefore x hx)]
      rfl
    obtain ⟨why, hrecord, hload⟩ := hsome e hfind
    refine ⟨why, hrecord, hload, fun s hs => ?_⟩
    rw [reload, hs, hload]

end Load

/-- The third of these entries is in the way: the key of the second has expired. -/
theorem load_iff_formed_third :
    ∃ why, load { dimension := 1 } 6 (some (Snapshot.encode 1 1 [⟨"a", 1, [0, 0, 0x80, 0x3f], none⟩,
      ⟨"b", 3, [7], some 5⟩, ⟨"c", 1, [7], some 9⟩])) = .error (.corruptRecord "c" why) := by
  let entries : List Entry := [⟨"a", 1, [0, 0, 0x80, 0x3f], none⟩, ⟨"b", 3, [7], some 5⟩,
    ⟨"c", 1, [7], some 9⟩]
  have hwalk : Snapshot.walk Snapshot.collect [] (Snapshot.encode 1 1 entries) 1 =
      (.ok 3, entries) :=
    Snapshot.walk_collect_eq_ok_iff.2 ⟨_, ⟨rfl, by decide, rfl⟩, rfl, rfl,
      Snapshot.fits_of_length (by decide), rfl⟩
  obtain ⟨-, hfirst⟩ := load_iff_formed (rfl : Settings.check { dimension := 1 } = .ok ()) hwalk 6
  obtain ⟨why, -, hload, -⟩ := hfirst [⟨"a", 1, [0, 0, 0x80, 0x3f], none⟩, ⟨"b", 3, [7], some 5⟩]
    ⟨"c", 1, [7], some 9⟩ [] rfl (by decide) rfl (by decide)
  exact ⟨why, hload⟩

/-- An entry whose key has expired does not keep a file from loading, whatever it holds. -/
theorem load_of_expired_entry :
    Snapshot.walk Snapshot.collect [] (Snapshot.encode 1 2 [⟨"a", 3, [], some 5⟩]) 2 =
        (.ok 1, [⟨"a", 3, [], some 5⟩]) ∧
      (Entry.mk "a" 3 [] (some 5)).dimension.toUInt64 ≠ 2 ∧
      (Entry.mk "a" 3 [] (some 5)).data.length ≠ 4 * 2 ∧
      ∃ s, load { dimension := 2 } 5 (some (Snapshot.encode 1 2 [⟨"a", 3, [], some 5⟩])) =
        .ok s := by
  have hwalk : Snapshot.walk Snapshot.collect [] (Snapshot.encode 1 2 [⟨"a", 3, [], some 5⟩]) 2 =
      (.ok 1, [⟨"a", 3, [], some 5⟩]) :=
    Snapshot.walk_collect_eq_ok_iff.2 ⟨_, ⟨rfl, by decide, rfl⟩, rfl, rfl,
      Snapshot.fits_of_length (by decide), rfl⟩
  refine ⟨hwalk, by decide, by decide, ?_⟩
  exact (load_eq_of_blocks (rfl : Settings.check { dimension := 2 } = .ok ()) hwalk 5).1 rfl

/-! ## Dimensions -/

end Shard

namespace Snapshot

variable {σ : Type} {sink : Sink σ} {h : Header} {dimension : UInt64}

/-- A file for another dimension is not opened. -/
theorem walk_of_dimension_ne (hmagic : h.magic = magic) (hversion : h.version ≤ version)
    (hne : h.dimension.toUInt64 ≠ dimension) (entries : List Entry) (state : σ) :
    walk sink state (file h entries) dimension =
      (.error (.corrupt (.snapshotDimension h.dimension dimension)), state) := by
  have hopen : open? (h.bytes ++ entries.flatMap Entry.bytes) dimension =
      .error (.corrupt (.snapshotDimension h.dimension dimension)) := by
    rw [open?, Header.read_bytes hmagic]
    simp only [hmagic, ne_eq, not_true_eq_false, if_false, if_neg (UInt32.not_lt.2 hversion),
      if_pos hne]
  rw [walk, file, Checksum.unsealed_sealed]
  simp only [bind, Except.bind, hopen]

/-- A complete file is walked through for the dimension in its header, and for no other. -/
theorem walk_eq_ok_iff_of_complete {entries : List Entry} (hc : Complete h entries)
    (hversion : h.version ≤ version) (hsink : ∀ state e, (sink state e).1 = .ok ()) (state : σ) :
    (∃ n, (walk sink state (file h entries) dimension).1 = .ok n) ↔
      h.dimension.toUInt64 = dimension := by
  constructor
  · rintro ⟨n, hn⟩
    by_contra hne
    rw [walk_of_dimension_ne hc.magic hversion hne] at hn
    cases hn
  · intro hdimension
    have hwalk := walk_collect_eq_ok_iff.2
      ⟨h, ⟨hc.magic, hversion, hdimension⟩, rfl, hc.count, hc.fits, rfl⟩
    refine ⟨h.count, ?_⟩
    rw [walk_eq_collect hsink, hwalk]

end Snapshot

namespace Shard

variable {s : Shard} {now : Nat}

theorem Sound.dimension_header (h : s.Sound) (now : Nat) :
    (s.image now).1.header.dimension = s.dimension.toUInt32 := by
  rw [Snapshot.Image.header, h.dimension_image]

/-- **A snapshot is for one dimension.** The file of any shard is walked through for the dimension
whose number is the remainder of the shard's own modulo 2^32, and for no other. Below 2^32 this is
the shard's own dimension. From there on it is not, and what the shard has saved cannot be loaded
with its settings. -/
theorem Reached.walk_image_iff (h : s.Reached)
    (hfile : (s.image now).1.bytes.length < 2 ^ 64) {σ : Type} {sink : Snapshot.Sink σ}
    (hsink : ∀ state e, (sink state e).1 = .ok ()) (state : σ) (dimension : UInt64) :
    ((∃ n, (Snapshot.walk sink state (s.image now).1.bytes dimension).1 = .ok n) ↔
      dimension.toNat = s.dimension.toNat % 2 ^ 32) ∧
    (s.dimension.toNat < 2 ^ 32 →
      ((∃ n, (Snapshot.walk sink state (s.image now).1.bytes dimension).1 = .ok n) ↔
        dimension = s.dimension)) ∧
    (2 ^ 32 ≤ s.dimension.toNat → ∀ later,
      Shard.load s.settings later (some (s.image now).1.bytes) =
        .error (.corrupt (.snapshotDimension s.dimension.toUInt32 s.dimension))) := by
  have hheader := h.sound.dimension_header now
  have hlow : (s.image now).1.header.dimension.toUInt64.toNat = s.dimension.toNat % 2 ^ 32 := by
    rw [hheader, UInt32.toNat_toUInt64, UInt64.toNat_toUInt32]
  have hcomplete := Snapshot.Image.complete hfile
  have hiff : (∃ n, (Snapshot.walk sink state (s.image now).1.bytes dimension).1 = .ok n) ↔
      dimension.toNat = s.dimension.toNat % 2 ^ 32 := by
    rw [← hlow, eq_comm, UInt64.toNat_inj]
    exact Snapshot.walk_eq_ok_iff_of_complete hcomplete (UInt32.le_refl _) hsink state
  refine ⟨hiff, fun hlt => ?_, fun hle later => ?_⟩
  · rw [hiff, Nat.mod_eq_of_lt hlt, UInt64.toNat_inj]
  · have hne : (s.image now).1.header.dimension.toUInt64 ≠ s.dimension := by
      intro he
      rw [he] at hlow
      omega
    refine load_of_walk_error h.check fun s₀ => ?_
    rw [← hheader]
    exact congrArg Prod.fst
      (Snapshot.walk_of_dimension_ne hcomplete.magic (UInt32.le_refl _) hne _ s₀)

theorem length_bytes_image_empty (settings : Settings) (now : Nat) :
    (Shard.image { settings, store := Store.empty settings.dimension } now).1.bytes.length =
      24 := by
  rw [Snapshot.Image.length_bytes]
  rfl

/-- An empty shard of dimension two. -/
theorem walk_image_iff_empty : ∃ s : Shard, s.Reached ∧ s.dimension = 2 ∧ ∀ dimension,
    ((∃ n, (Snapshot.walk Snapshot.collect [] (s.image 0).1.bytes dimension).1 = .ok n) ↔
      dimension = 2) := by
  have hnew : new { dimension := 2 } =
    .ok { settings := { dimension := 2 }, store := Store.empty 2 } := rfl
  have hfile := length_bytes_image_empty { dimension := 2 } 0
  refine ⟨_, .new hnew, rfl, fun dimension => ?_⟩
  exact ((Reached.new hnew).walk_image_iff (lt_of_eq_of_lt hfile (by decide)) (fun _ _ => rfl) []
    dimension).2.1 (by decide)

/-- A dimension beyond 32 bits: the file of the shard is refused for it and let through for
another. -/
theorem walk_image_beyond : ∃ s : Shard, s.Reached ∧ s.dimension = 0x100000001 ∧
    (∃ why, (Snapshot.walk Snapshot.collect [] (s.image 0).1.bytes s.dimension).1 =
      .error (.corrupt why)) ∧
    Settings.check { dimension := 1 } = .ok () ∧
    ∃ n, (Snapshot.walk Snapshot.collect [] (s.image 0).1.bytes 1).1 = .ok n := by
  have hnew : new { dimension := 0x100000001 } =
    .ok { settings := { dimension := 0x100000001 }, store := Store.empty 0x100000001 } := rfl
  have hfile := length_bytes_image_empty { dimension := 0x100000001 } 0
  have hcomplete := Snapshot.Image.complete (lt_of_eq_of_lt hfile (by decide))
  refine ⟨_, .new hnew, rfl, ⟨.snapshotDimension 1 0x100000001, ?_⟩, rfl, ?_⟩
  · exact congrArg Prod.fst
      (Snapshot.walk_of_dimension_ne hcomplete.magic (UInt32.le_refl _) (by decide) _ _)
  · exact (Snapshot.walk_eq_ok_iff_of_complete hcomplete (UInt32.le_refl _) (fun _ _ => rfl) _).2
      rfl

end Shard

end Nearest
