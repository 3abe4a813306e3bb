import Nearest.Payload
import Nearest.Proofs.Fields

/-!
# Vectors are read as they were written

A record gives back the bytes that it was made of, and a payload the record.

* `Record.ofBytes_eq_ok_iff`: which payloads make a record, and that it gives back what it was made
  of.
* `Payload.Frame.exact_read`: a frame is read from exactly what is written of it.
* `Payload.decode_encode`: the payload of a record is decoded as the record, and
  `Payload.decode_encode_of_ne`: for another dimension it is refused.
-/

namespace Nearest

/-- The bytes of a vector as a word are four for each component, counted modulo 2^64. -/
theorem Settings.toNat_vectorBytes (dimension : UInt64) :
    (vectorBytes dimension).toNat = 4 * (dimension.toNat % 2 ^ 62) := by
  have hlt := dimension.toNat_lt
  rw [vectorBytes, UInt64.toNat_mul]
  simp only [UInt64.reduceToNat]
  omega

namespace Record

theorem length_bytes (r : Record) : r.bytes.length = 4 * r.dimension :=
  Bytes.length_ofWords32 r.components

/-- A payload makes the record that gives it back, if that has as many components as the dimension
says modulo 2^62. -/
theorem ofBytes_eq_ok_iff {payload : Bytes} {dimension : UInt64} {r : Record} :
    ofBytes payload dimension = .ok r ↔
      r.dimension = dimension.toNat % 2 ^ 62 ∧ r.bytes = payload := by
  have hlength := length_bytes r
  constructor
  · intro h
    unfold ofBytes at h
    split at h
    · rename_i hpayload
      rw [Settings.toNat_vectorBytes] at hpayload
      cases h
      have hbytes : (Record.mk (Bytes.words32 payload)).bytes = payload :=
        Bytes.ofWords32_words32 (by omega)
      rw [hbytes] at hlength
      exact ⟨by omega, hbytes⟩
    · cases h
  · rintro ⟨hr, rfl⟩
    rw [ofBytes, if_pos (by rw [Settings.toNat_vectorBytes, hlength, hr]), bytes,
      Bytes.words32_ofWords32]

/-- Any other payload is refused with its length. -/
theorem ofBytes_eq_error_iff {payload : Bytes} {dimension : UInt64} {e : Fault} :
    ofBytes payload dimension = .error e ↔ payload.length ≠ 4 * (dimension.toNat % 2 ^ 62) ∧
      e = .vectorSize dimension (UInt64.ofNat payload.length) := by
  unfold ofBytes
  rw [Settings.toNat_vectorBytes]
  split
  · rename_i hlength
    exact ⟨nofun, fun h => absurd hlength h.1⟩
  · rename_i hlength
    rw [Except.error.injEq]
    exact ⟨fun h => ⟨hlength, h.symm⟩, fun h => h.2.symm⟩

/-- A record gives back the payload that it was made of. -/
theorem bytes_of_ofBytes {payload : Bytes} {dimension : UInt64} {r : Record}
    (h : ofBytes payload dimension = .ok r) : r.bytes = payload :=
  (ofBytes_eq_ok_iff.1 h).2

/-- A record is made of the bytes that it gives back, under its own dimension, and of no others. -/
theorem ofDeclared_eq_ok_iff {declared : UInt32} {payload : Bytes} {dimension : UInt64}
    {r : Record} : ofDeclared declared payload dimension = .ok r ↔
      declared.toUInt64 = dimension ∧ r.dimension = dimension.toNat ∧ r.bytes = payload := by
  unfold ofDeclared
  split
  · rename_i hdeclared
    have hlt := declared.toNat_lt
    rw [← UInt32.toNat_toUInt64, hdeclared] at hlt
    rw [ofBytes_eq_ok_iff, Nat.mod_eq_of_lt (by omega)]
    exact ⟨fun h => ⟨hdeclared, h⟩, And.right⟩
  · rename_i hne
    exact ⟨nofun, fun h => absurd h.1 hne⟩

/-- The record that is written is the record that is read. -/
theorem ofDeclared_bytes {v : List UInt32} {dimension : UInt64}
    (hv : v.length = dimension.toNat) (hdim : dimension.toNat < 2 ^ 32) :
    ofDeclared (UInt32.ofNat v.length) (Bytes.ofWords32 v) dimension = .ok ⟨v⟩ := by
  refine ofDeclared_eq_ok_iff.2 ⟨UInt64.toNat_inj.1 ?_, hv, rfl⟩
  rw [UInt32.toNat_toUInt64, UInt32.toNat_ofNat', hv]
  exact Nat.mod_eq_of_lt hdim

theorem ofDeclared_of_ne {declared : UInt32} {dimension : UInt64}
    (h : declared.toUInt64 ≠ dimension) (payload : Bytes) :
    ofDeclared declared payload dimension = .error (.corrupt (.dimension declared dimension)) :=
  if_neg h

end Record

namespace Payload

/-! ## Frames -/

/-- The lengths in a frame fit into their words. -/
structure Frame.Fits (f : Frame) : Prop where
  tag : (Bytes.ofText f.tag).length < 2 ^ 64
  data : f.data.length < 2 ^ 64

/-- A frame is read field by field. -/
theorem Frame.read_of_fields {b b₁ b₂ b₃ b₄ : Bytes} {tag : String} {version dimension : UInt32}
    {data : Bytes} (htag : Field.text b = .ok (tag, b₁))
    (hversion : Field.word32 b₁ = .ok (version, b₂))
    (hdimension : Field.word32 b₂ = .ok (dimension, b₃)) (hdata : Field.blob b₃ = .ok (data, b₄)) :
    Frame.read b = .ok ({ tag, version, dimension, data }, b₄) := by
  simp only [Frame.read, htag, hversion, hdimension, hdata, bind, Except.bind, pure, Except.pure]

theorem Frame.exact_read : Field.Exact Frame.read Frame.bytes Frame.Fits := by
  intro b f rest
  constructor
  · intro hread
    obtain ⟨tag, b₁, htag, rfl, h₁⟩ := Field.exact_text.of_bind hread
    obtain ⟨version, b₂, -, rfl, h₂⟩ := Field.exact_word32.of_bind h₁
    obtain ⟨dimension, b₃, -, rfl, h₃⟩ := Field.exact_word32.of_bind h₂
    obtain ⟨data, b₄, hdata, rfl, h₄⟩ := Field.exact_blob.of_bind h₃
    cases h₄
    exact ⟨⟨htag, hdata⟩, by simp [Frame.bytes]⟩
  · rintro ⟨hfits, rfl⟩
    simp only [Frame.bytes, List.append_assoc]
    exact Frame.read_of_fields (Field.text_ofText hfits.tag _)
      (Field.word32_ofWord32 f.version _) (Field.word32_ofWord32 f.dimension _)
      (Field.blob_ofBlob hfits.data rest)

theorem decode_of_read {payload body rest : Bytes} {f : Frame}
    (hbody : Checksum.unsealed payload = .ok body) (hread : Frame.read body = .ok (f, rest))
    (dimension : UInt64) : decode payload dimension = ofFrame f dimension := by
  simp only [decode, hbody, hread, bind, Except.bind]

theorem decode_of_read_error {payload body : Bytes} {why : Field.Fault}
    (hbody : Checksum.unsealed payload = .ok body) (hread : Frame.read body = .error why)
    (dimension : UInt64) : decode payload dimension = .error (.corrupt (.frame why)) := by
  simp only [decode, hbody, hread, bind, Except.bind]
  rfl

/-- A sealed frame is decoded as what it says. -/
theorem decode_sealed {f : Frame} (h : f.Fits) (dimension : UInt64) :
    decode (Checksum.sealed f.bytes) dimension = ofFrame f dimension := by
  exact decode_of_read (Checksum.unsealed_sealed f.bytes)
    ((Frame.exact_read _ _ _).2 ⟨h, (List.append_nil _).symm⟩) dimension

/-! ## Records -/

/-- The frame of a record. -/
def frameOf (r : Record) : Frame where
  tag := typeTag
  version
  dimension := UInt32.ofNat r.dimension
  data := r.bytes

theorem encode_eq (r : Record) : encode r = Checksum.sealed (frameOf r).bytes :=
  rfl

theorem fits_frameOf {r : Record} (h : r.bytes.length < 2 ^ 64) : (frameOf r).Fits :=
  ⟨(by decide : (Bytes.ofText typeTag).length < 2 ^ 64), h⟩

/-- The frame of a record passes the checks that come before those of its data. -/
theorem ofFrame_frameOf (r : Record) (dimension : UInt64) :
    ofFrame (frameOf r) dimension =
      Record.ofDeclared (UInt32.ofNat r.dimension) r.bytes dimension := by
  have htag : ¬(frameOf r).tag ≠ typeTag := fun h => h rfl
  have hversion : ¬version < (frameOf r).version := UInt32.lt_irrefl version
  rw [ofFrame, if_neg htag, if_neg hversion]
  rfl

/-- The payload of a record is decoded as its declared dimension and its bytes are. -/
theorem decode_encode_eq {r : Record} (h : r.bytes.length < 2 ^ 64) (dimension : UInt64) :
    decode (encode r) dimension =
      Record.ofDeclared (UInt32.ofNat r.dimension) r.bytes dimension := by
  rw [encode_eq, decode_sealed (fits_frameOf h), ofFrame_frameOf]

section Dimension

variable {r : Record} {dimension : UInt64} (hr : r.dimension = dimension.toNat)
  (hdim : dimension.toNat < 2 ^ 32)
include hr hdim

theorem length_bytes_lt : r.bytes.length < 2 ^ 64 := by
  rw [Record.length_bytes]
  omega

/-- The payload of a record is decoded as the record. -/
theorem decode_encode : decode (encode r) dimension = .ok r := by
  rw [decode_encode_eq (length_bytes_lt hr hdim)]
  exact Record.ofDeclared_bytes hr hdim

/-- For another dimension the payload of a record is refused. -/
theorem decode_encode_of_ne {other : UInt64} (hne : other ≠ dimension) :
    ∃ why, decode (encode r) other = .error (.corrupt why) := by
  have hdeclared : (UInt32.ofNat r.dimension).toUInt64 ≠ other := by
    intro h
    refine hne (UInt64.toNat_inj.1 ?_)
    rw [← h, UInt32.toNat_toUInt64, UInt32.toNat_ofNat', hr]
    exact Nat.mod_eq_of_lt hdim
  exact ⟨_, (decode_encode_eq (length_bytes_lt hr hdim) other).trans
    (Record.ofDeclared_of_ne hdeclared r.bytes)⟩

end Dimension

end Payload

end Nearest
