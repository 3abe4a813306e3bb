import Nearest.Proofs.Format
import Nearest.Proofs.Register
import Nearest.Proofs.Restoring

/-!
# Damaged bytes are not read

What has been sealed is not read any more once it is damaged, and whoever tries is left as he was.

* `Bytes.Garbled`: some of up to four consecutive bytes are others. The checksum finds this out
  wherever they are (`Checksum.corrupt_of_garbled`).
* A snapshot or a payload that has been cut short, and a snapshot with more behind it, may happen to
  end in the right checksum. They are found out because the formats do not go on in two ways
  (`Snapshot.file_eq_of_prefix`, `Payload.Frame.exact_read`); this is `Snapshot.corrupt_of_resized`.
-/

namespace Nearest

/-! ## Bytes that are others -/

/-- The second byte string is as long as the first and is another one, but differs from it only
inside a window of four consecutive bytes. -/
structure Bytes.Garbled (b b' : Bytes) : Prop where
  length : b'.length = b.length
  ne : b' ≠ b
  window : ∃ start, ∀ i, b'[i]? ≠ b[i]? → start ≤ i ∧ i < start + 4

namespace Bytes

theorem eq_append_window (b : Bytes) (start n : Nat) :
    b = b.take start ++ (b.drop start).take n ++ b.drop (start + n) := by
  rw [← List.drop_drop, List.append_assoc, List.take_append_drop, List.take_append_drop]

/-- The bytes before the window, in it and after it. -/
theorem Garbled.exists_windows {b b' : Bytes} (h : Garbled b b') :
    ∃ before window window' after : Bytes, b = before ++ window ++ after ∧
      b' = before ++ window' ++ after ∧ window.length = window'.length ∧ window.length ≤ 4 ∧
      window ≠ window' := by
  obtain ⟨start, hwindow⟩ := h.window
  have htake : b'.take start = b.take start := by
    refine List.ext_getElem? fun i => ?_
    rw [List.getElem?_take, List.getElem?_take]
    split
    · by_contra hne
      have := hwindow i hne
      omega
    · rfl
  have hdrop : b'.drop (start + 4) = b.drop (start + 4) := by
    refine List.ext_getElem? fun i => ?_
    rw [List.getElem?_drop, List.getElem?_drop]
    by_contra hne
    have := hwindow _ hne
    omega
  have hb := b.eq_append_window start 4
  have hb' := b'.eq_append_window start 4
  rw [htake, hdrop] at hb'
  refine ⟨_, _, _, _, hb, hb', ?_, List.length_take_le _ _, fun he => h.ne ?_⟩
  · simp only [List.length_take, List.length_drop, h.length]
  · rw [hb', ← he, ← hb]

end Bytes

namespace Checksum

/-- What cannot be unsealed is corrupt. -/
theorem corrupt_of_unsealed {b : Bytes} {e : Fault} (h : unsealed b = .error e) :
    ∃ why, e = .corrupt why := by
  unfold unsealed at h
  split at h
  · cases h
    exact ⟨_, rfl⟩
  · dsimp only at h
    split at h
    · cases h
    · cases h
      exact ⟨_, rfl⟩

theorem unsealed_of_garbled {frame b : Bytes} (h : Bytes.Garbled (sealed frame) b) :
    ∃ why, unsealed b = .error (.corrupt why) := by
  cases hb : unsealed b with
  | error e =>
    obtain ⟨why, rfl⟩ := corrupt_of_unsealed hb
    exact ⟨why, rfl⟩
  | ok frame' =>
    obtain rfl := unsealed_eq_ok_iff.1 hb
    obtain ⟨before, window, window', after, hs, hs', hlength, hle, hne⟩ := h.exists_windows
    have hsame := (register_sealed frame).trans (register_sealed frame').symm
    rw [hs, hs'] at hsame
    exact absurd (eq_of_register_eq hlength hle hsame) hne

end Checksum

/-! ## Readers of what cannot be unsealed -/

section Unsealed

variable {b : Bytes} {e : Fault} (h : Checksum.unsealed b = .error e)
include h

theorem Payload.decode_of_unsealed_error (dimension : UInt64) : decode b dimension = .error e := by
  rw [decode, h]
  rfl

theorem Snapshot.walk_of_unsealed_error {σ : Type} (sink : Sink σ) (state : σ)
    (dimension : UInt64) : walk sink state b dimension = (.error e, state) := by
  rw [walk, h]
  rfl

end Unsealed

namespace Shard

/-- A file that cannot be walked through does not load. -/
theorem load_of_walk_error {settings : Settings} (hcheck : settings.check = .ok ()) {now : Nat}
    {file : Bytes} {e : Fault}
    (hwalk : ∀ s₀, (Snapshot.walk (receive now) s₀ file settings.dimension).1 = .error e) :
    load settings now (some file) = .error e := by
  let s₀ : Shard := { settings, store := Store.empty settings.dimension }
  have hnew : new settings = .ok s₀ := by rw [new, hcheck]
  rcases hw : Snapshot.walk (receive now) s₀ file settings.dimension with ⟨result, s'⟩
  obtain rfl : result = .error e := by
    have hresult := hwalk s₀
    rwa [hw] at hresult
  rw [load, hnew]
  simp only [hw]

/-- A file that cannot be walked through leaves the shard. -/
theorem Reached.reload_of_error {s : Shard} (h : s.Reached) {now : Nat} {file : Bytes} {e : Fault}
    (hwalk : ∀ s₀, (Snapshot.walk (receive now) s₀ file s.settings.dimension).1 = .error e) :
    s.reload now (some file) = (.error e, s) := by
  rw [Shard.reload, load_of_walk_error h.check hwalk]

end Shard

/-- **Bytes that are others are noticed.** If some of up to four consecutive bytes of a sealed frame
are others, wherever they are, then it is corrupt: it is not decoded as a payload and no entry of it
is handed out as a snapshot. So neither restoring nor reloading touches what is live of a shard. -/
theorem Checksum.corrupt_of_garbled {frame b : Bytes} (h : Bytes.Garbled (sealed frame) b) :
    ∃ why, unsealed b = .error (.corrupt why) ∧
      (∀ dimension, Payload.decode b dimension = .error (.corrupt why)) ∧
      (∀ (σ : Type) (sink : Snapshot.Sink σ) state dimension,
        Snapshot.walk sink state b dimension = (.error (.corrupt why), state)) ∧
      ∀ s : Shard, s.Reached → ∀ now,
        (∀ key ttl replace, (∃ e, (s.restore now key ttl b replace).1 = .error e) ∧
          ∀ x, s.SameLive (s.restore now key ttl b replace).2 now x) ∧
        s.reload now (some b) = (.error (.corrupt why), s) := by
  obtain ⟨why, hb⟩ := unsealed_of_garbled h
  refine ⟨why, hb, Payload.decode_of_unsealed_error hb,
    fun σ sink state => Snapshot.walk_of_unsealed_error hb sink state, fun s hs now => ⟨?_, ?_⟩⟩
  · intro key ttl replace
    exact hs.sound.restore_of_error (Payload.decode_of_unsealed_error hb s.dimension)
  · refine hs.reload_of_error fun s₀ => ?_
    rw [Snapshot.walk_of_unsealed_error hb]

/-- A frame of three bytes; the last of them and the first of its checksum are others. -/
theorem Checksum.corrupt_of_garbled_boundary :
    Bytes.Garbled (sealed [1, 2, 3]) [1, 2, 4, 0x1e, 0x80, 0xbc, 0x55] ∧
      ∃ why, unsealed [1, 2, 4, 0x1e, 0x80, 0xbc, 0x55] = .error (.corrupt why) ∧
        Payload.decode [1, 2, 4, 0x1e, 0x80, 0xbc, 0x55] 1 = .error (.corrupt why) := by
  have hsealed : sealed [1, 2, 3] = [1, 2, 3, 0x1d, 0x80, 0xbc, 0x55] := by decide +kernel
  have hgarbled : Bytes.Garbled (sealed [1, 2, 3]) [1, 2, 4, 0x1e, 0x80, 0xbc, 0x55] := by
    rw [hsealed]
    refine ⟨rfl, by decide, 2, fun i hi => ?_⟩
    match i, hi with
    | 0, hi | 1, hi => exact absurd rfl hi
    | 2, _ | 3, _ => omega
    | i + 4, hi => exact absurd rfl hi
  obtain ⟨why, hunsealed, hdecode, -⟩ := corrupt_of_garbled hgarbled
  exact ⟨hgarbled, why, hunsealed, hdecode 1⟩

/-! ## Bytes that are missing or too many -/

namespace Snapshot

variable {σ : Type} {sink : Sink σ}

/-- As many entries, written one after the other, do not go on in two ways. -/
theorem entries_prefix_unique {entries entries' : List Entry}
    (hlength : entries.length = entries'.length) (hfits : ∀ e ∈ entries, e.Fits)
    (hfits' : ∀ e ∈ entries', e.Fits) {rest rest' : Bytes}
    (heq : entries.flatMap Entry.bytes ++ rest = entries'.flatMap Entry.bytes ++ rest') :
    entries = entries' ∧ rest = rest' := by
  induction entries generalizing entries' with
  | nil =>
    obtain rfl := List.length_eq_zero_iff.1 hlength.symm
    exact ⟨rfl, heq⟩
  | cons e entries ih =>
    cases entries' with
    | nil => cases hlength
    | cons e' entries' =>
      obtain ⟨he, hentries⟩ := List.forall_mem_cons.1 hfits
      obtain ⟨he', hentries'⟩ := List.forall_mem_cons.1 hfits'
      rw [List.flatMap_cons, List.flatMap_cons, List.append_assoc, List.append_assoc] at heq
      obtain ⟨rfl, htail⟩ := Entry.exact_read.prefix_unique he he' heq
      obtain ⟨rfl, hrest⟩ := ih (Nat.succ.inj hlength) hentries hentries' htail
      exact ⟨rfl, hrest⟩

/-- A header with the entries that it announces. -/
structure Complete (h : Header) (entries : List Entry) : Prop where
  magic : h.magic = Snapshot.magic
  count : entries.length = h.count.toNat
  fits : ∀ e ∈ entries, e.Fits

/-- A file says where it ends: none is the beginning of another. -/
theorem file_eq_of_prefix {h h' : Header} {entries entries' : List Entry}
    (hc : Complete h entries) (hc' : Complete h' entries')
    (hp : file h entries <+: file h' entries') : file h entries = file h' entries' := by
  obtain ⟨s, hs⟩ := hp
  simp only [file, Checksum.sealed, List.append_assoc] at hs
  have hread := Header.read_bytes hc.magic
    (entries.flatMap Entry.bytes ++
      (Bytes.ofWord32 (Checksum.sum (h.bytes ++ entries.flatMap Entry.bytes)) ++ s))
  rw [hs, Header.read_bytes hc'.magic] at hread
  obtain ⟨rfl, htail⟩ := Prod.mk.inj (Except.ok.inj hread)
  obtain ⟨rfl, -⟩ := entries_prefix_unique (hc'.count.trans hc.count.symm) hc'.fits hc.fits htail
  rfl

/-- What a walk succeeds on is a complete file. -/
theorem exists_complete_of_walk {state : σ} {b : Bytes} {dimension n : UInt64}
    (h : (walk sink state b dimension).1 = .ok n) :
    ∃ header entries, Complete header entries ∧ b = file header entries := by
  rcases hw : walk sink state b dimension with ⟨result, state'⟩
  rw [hw] at h
  obtain rfl : result = .ok n := h
  obtain ⟨header, entries, hopens, hcount, hlength, hfits, hb, -⟩ := walk_eq_ok_iff.1 hw
  exact ⟨header, entries, ⟨hopens.magic, hcount ▸ hlength, hfits⟩, hb⟩

theorem length_le_length_flatMap (entries : List Entry) :
    entries.length ≤ (entries.flatMap Entry.bytes).length := by
  induction entries with
  | nil => exact Nat.le_refl 0
  | cons e entries ih =>
    have he := e.length_bytes_ge
    rw [List.flatMap_cons, List.length_append, List.length_cons]
    omega

/-- The file of an image is complete if its length is a word. -/
theorem Image.complete {image : Image} (h : image.bytes.length < 2 ^ 64) :
    Complete image.header image.entries := by
  rw [Image.length_bytes] at h
  have hle := length_le_length_flatMap image.entries
  refine ⟨rfl, ?_, fits_of_length (by omega)⟩
  rw [Image.header, ← Image.length_entries, UInt64.toNat_ofNat']
  exact (Nat.mod_eq_of_lt (by omega)).symm

/-! ### The faults of a walk -/

theorem corrupt_of_open? {body : Bytes} {dimension : UInt64} {e : Fault}
    (h : open? body dimension = .error e) : ∃ why, e = .corrupt why := by
  unfold open? at h
  split at h
  · cases h
    exact ⟨_, rfl⟩
  repeat' split at h
  all_goals cases h
  all_goals exact ⟨_, rfl⟩

section Accepting

variable (hsink : ∀ state e, (sink state e).1 = .ok ())
include hsink

theorem corrupt_of_handOut {state : σ} {body : Bytes} {left index : Nat} {e : Fault}
    (h : (handOut sink state body left index).1 = .error e) : ∃ why, e = .corrupt why := by
  induction left generalizing state body index with
  | zero => cases h
  | succ left ih =>
    unfold handOut at h
    split at h
    · cases h
      exact ⟨_, rfl⟩
    · rename_i entry rest _
      have hentry := hsink state entry
      split at h
      · rename_i heq
        rw [heq] at hentry
        cases hentry
      · exact ih h

/-- The faults that a walk finds itself are corruptions. -/
theorem corrupt_of_walk {state : σ} {b : Bytes} {dimension : UInt64} {e : Fault}
    (h : (walk sink state b dimension).1 = .error e) : ∃ why, e = .corrupt why := by
  unfold walk at h
  split at h
  · rename_i hopen
    cases h
    cases hb : Checksum.unsealed b with
    | error e' =>
      rw [hb] at hopen
      cases hopen
      exact Checksum.corrupt_of_unsealed hb
    | ok body =>
      rw [hb] at hopen
      exact corrupt_of_open? hopen
  · split at h
    · rename_i heq
      cases h
      exact corrupt_of_handOut hsink (congrArg Prod.fst heq)
    · cases h
    · cases h
      exact ⟨_, rfl⟩

/-- A walk fails on what is no complete file. -/
theorem walk_corrupt {b : Bytes} (h : ∀ header entries, Complete header entries →
    b ≠ file header entries) (state : σ) (dimension : UInt64) :
    ∃ why, (walk sink state b dimension).1 = .error (.corrupt why) := by
  cases hw : (walk sink state b dimension).1 with
  | error e =>
    obtain ⟨why, rfl⟩ := corrupt_of_walk hsink hw
    exact ⟨why, rfl⟩
  | ok n =>
    obtain ⟨header, entries, hcomplete, hb⟩ := exists_complete_of_walk hw
    exact absurd hb (h header entries hcomplete)

end Accepting

end Snapshot

namespace Payload

/-- A payload that has been cut short is corrupt. -/
theorem decode_of_prefix {r : Record} (hr : r.bytes.length < 2 ^ 64) {p : Bytes}
    (hp : p <+: encode r) (hne : p ≠ encode r) (dimension : UInt64) :
    ∃ why, decode p dimension = .error (.corrupt why) := by
  cases hbody : Checksum.unsealed p with
  | error e =>
    obtain ⟨why, rfl⟩ := Checksum.corrupt_of_unsealed hbody
    exact ⟨why, decode_of_unsealed_error hbody dimension⟩
  | ok body =>
    obtain rfl := Checksum.unsealed_eq_ok_iff.1 hbody
    cases hread : Frame.read body with
    | error why => exact ⟨.frame why, decode_of_read_error hbody hread dimension⟩
    | ok x =>
      obtain ⟨f, rest⟩ := x
      obtain ⟨hf, rfl⟩ := (Frame.exact_read _ _ _).1 hread
      obtain ⟨s, hs⟩ := hp
      have hs' := hs
      rw [encode_eq] at hs'
      simp only [Checksum.sealed, List.append_assoc] at hs'
      obtain ⟨rfl, htail⟩ := Frame.exact_read.prefix_unique hf (fits_frameOf hr) hs'
      have hlength := congrArg List.length htail
      simp only [List.length_append, Bytes.length_ofWord32] at hlength
      obtain rfl : s = [] := List.length_eq_zero_iff.1 (by omega)
      rw [List.append_nil] at hs
      exact absurd hs hne

end Payload

/-- **What is cut short or extended is noticed**, even if it ends in the right checksum. For the
snapshot file of any image, no proper beginning of it and nothing that goes on after it is walked
through, and no proper beginning of a record's payload is decoded. -/
theorem Snapshot.corrupt_of_resized {image : Image} (himage : image.bytes.length < 2 ^ 64)
    {r : Record} (hr : r.bytes.length < 2 ^ 64) :
    (∀ (σ : Type) (sink : Sink σ), (∀ state e, (sink state e).1 = .ok ()) → ∀ state,
      (∀ p, p <+: image.bytes → p ≠ image.bytes →
        ∃ why, (walk sink state p image.store.dimension).1 = .error (.corrupt why)) ∧
      ∀ s, s ≠ [] →
        ∃ why, (walk sink state (image.bytes ++ s) image.store.dimension).1 =
          .error (.corrupt why)) ∧
    ∀ p, p <+: Payload.encode r → p ≠ Payload.encode r → ∀ dimension,
      ∃ why, Payload.decode p dimension = .error (.corrupt why) := by
  have hcomplete := Image.complete himage
  have hfile : image.bytes = file image.header image.entries := rfl
  refine ⟨fun σ sink hsink state => ⟨fun p hp hne => ?_, fun s hs => ?_⟩,
    fun p hp hne => Payload.decode_of_prefix hr hp hne⟩
  · refine walk_corrupt hsink (fun header entries hc hpfile => hne ?_) state _
    rw [hpfile, hfile] at hp ⊢
    exact file_eq_of_prefix hc hcomplete hp
  · refine walk_corrupt hsink (fun header entries hc hsfile => hs ?_) state _
    have hp : file image.header image.entries <+: file header entries :=
      ⟨s, by rw [← hfile, hsfile]⟩
    have hsame := file_eq_of_prefix hcomplete hc hp
    rw [← hsfile, ← hfile] at hsame
    exact List.append_cancel_left (hsame.symm.trans (List.append_nil _).symm)

/-- A snapshot of one vector whose key expires, and a payload. -/
theorem Snapshot.corrupt_of_resized_single : ∃ image : Image,
    image.store.toList = [("a", [0x3f800000])] ∧ image.expiries.get? "a" = some 5 ∧
      image.bytes.length < 2 ^ 64 ∧ Record.bytes ⟨[1, 2]⟩ = [1, 0, 0, 0, 2, 0, 0, 0] ∧
      (∃ why, (walk collect [] image.bytes.dropLast 1).1 = .error (.corrupt why)) ∧
      (∃ why, (walk collect [] (image.bytes ++ [0]) 1).1 = .error (.corrupt why)) ∧
      ∃ why, Payload.decode (Payload.encode ⟨[1, 2]⟩).dropLast 2 = .error (.corrupt why) := by
  obtain ⟨store, -, hdim, hholds⟩ :=
    (Store.holds_empty 1).upsert "a" (r := ⟨[0x3f800000]⟩) rfl
  let image : Image := { store, expiries := ⟨[("a", 5)]⟩ }
  have hrows : image.store.toList = [("a", [0x3f800000])] := hholds.toList
  have hlength : image.bytes.length = 58 := by
    rw [Image.length_bytes, Image.entries_eq, hrows]
    rfl
  have hbytes : image.bytes.length < 2 ^ 64 := by
    rw [hlength]
    decide
  have hshort : ∀ b : Bytes, b ≠ [] → b.dropLast ≠ b := fun b hb h => by
    have := congrArg List.length h
    have := List.length_pos_iff.2 hb
    rw [List.length_dropLast] at *
    omega
  obtain ⟨hwalk, hdecode⟩ := corrupt_of_resized hbytes (r := ⟨[1, 2]⟩) (by decide)
  obtain ⟨hcut, hextended⟩ := hwalk _ collect (fun _ _ => rfl) []
  rw [show image.store.dimension = 1 from hdim] at hcut hextended
  refine ⟨image, hrows, rfl, hbytes, rfl, hcut _ (List.dropLast_prefix _) (hshort _ ?_),
    hextended [0] (by decide), hdecode _ (List.dropLast_prefix _) (hshort _ ?_) 2⟩
  · exact List.ne_nil_of_length_pos (by omega)
  · exact List.ne_nil_of_length_pos (by
      rw [Payload.encode_eq, Checksum.length_sealed]
      omega)

end Nearest
