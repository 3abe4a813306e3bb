import Nearest.Proofs.Exactness
import Nearest.Proofs.Payload

/-!
# How long a vector is

The bytes of a vector are four for each component, and their number is a word. So vectors are taken
to have as many components as their dimension says as long as four times this number is a word,
and from 2^62 on they are taken to have fewer.

* `VectorsHave dimension n`: payloads are looked at as if vectors of a dimension had `n` components,
  when a record is made and when a query is answered.
* `vectorsHave_iff`: this is so for the remainder of the dimension modulo 2^62 and for no other
  number. `ofBytes_beyond` is what comes of it at 2^62.
-/

namespace Nearest

/-! ## Records -/

namespace Record

theorem exists_ofBytes_iff {payload : Bytes} {dimension : UInt64} :
    (∃ r, ofBytes payload dimension = .ok r) ↔
      payload.length = 4 * (dimension.toNat % 2 ^ 62) := by
  constructor
  · rintro ⟨r, h⟩
    obtain ⟨hr, rfl⟩ := ofBytes_eq_ok_iff.1 h
    rw [length_bytes, hr]
  · intro hlength
    cases h : ofBytes payload dimension with
    | ok r => exact ⟨r, rfl⟩
    | error e => exact absurd hlength (ofBytes_eq_error_iff.1 h).1

end Record

/-! ## All payloads -/

/-- Vectors of a dimension are taken to have `n` components: this is what the length of a payload is
compared with, the record that is made of one has so many, and a shard of the dimension answers a
query iff it is as long as such a vector. -/
structure VectorsHave (dimension : UInt64) (n : Nat) : Prop where
  bytes : (Settings.vectorBytes dimension).toNat = 4 * n
  made : ∀ payload, (∃ r, Record.ofBytes payload dimension = .ok r) ↔ payload.length = 4 * n
  components : ∀ payload r, Record.ofBytes payload dimension = .ok r → r.dimension = n
  refused : ∀ s : Shard, s.Reached → s.dimension = dimension → ∀ now (k : Int) filter f, 0 < k →
    filter.elim (.ok .all) KeyFilter.parse = .ok f → ∀ query : Bytes, query.length ≠ 4 * n →
      (s.search now k filter query).1 =
        .error (.vectorSize dimension (UInt64.ofNat query.length))
  answered : ∀ s : Shard, s.Reached → s.dimension = dimension → ∀ now (k : Int) filter f, 0 < k →
    filter.elim (.ok .all) KeyFilter.parse = .ok f → ∀ query : Bytes, query.length = 4 * n →
      ∃ response, (s.search now k filter query).1 = .ok response

theorem vectorsHave_mod (dimension : UInt64) :
    VectorsHave dimension (dimension.toNat % 2 ^ 62) where
  bytes := Settings.toNat_vectorBytes dimension
  made payload := Record.exists_ofBytes_iff
  components payload r h := (Record.ofBytes_eq_ok_iff.1 h).1
  refused s h hdim now k filter f hk hf query hlength := by
    have hfault := Record.ofBytes_eq_error_iff.2 ⟨hlength, rfl⟩
    rw [h.sound.search_eq_map now hk hf, hdim, hfault]
    rfl
  answered s h hdim now k filter f hk hf query hlength := by
    obtain ⟨q, hq⟩ := Record.exists_ofBytes_iff.2 hlength
    rw [h.sound.search_eq_map now hk hf, hdim, hq]
    exact ⟨_, rfl⟩

/-- **Vectors have as many components as their dimension says modulo 2^62**, wherever the length of
a payload is looked at. So for a dimension below 2^62 it is looked at exactly as the dimension says,
and for any other it is not: there the payload of fewer components is taken for a vector. -/
theorem vectorsHave_iff (dimension : UInt64) :
    (∀ n, VectorsHave dimension n ↔ n = dimension.toNat % 2 ^ 62) ∧
    (VectorsHave dimension dimension.toNat ↔ dimension.toNat < 2 ^ 62) ∧
    (2 ^ 62 ≤ dimension.toNat → ∀ payload r, Record.ofBytes payload dimension = .ok r →
      r.dimension < dimension.toNat ∧ payload.length < 4 * dimension.toNat) := by
  have hiff : ∀ n, VectorsHave dimension n ↔ n = dimension.toNat % 2 ^ 62 := by
    intro n
    constructor
    · intro h
      have hbytes := h.bytes
      rw [Settings.toNat_vectorBytes] at hbytes
      omega
    · rintro rfl
      exact vectorsHave_mod dimension
  refine ⟨hiff, ?_, fun hle payload r h => ?_⟩
  · rw [hiff]
    omega
  · have hr := (vectorsHave_mod dimension).components payload r h
    have hlength := Record.length_bytes r
    rw [Record.bytes_of_ofBytes h] at hlength
    omega

/-- The dimension 2^62 is usable, and its vectors have no bytes: the empty payload makes a record,
and the empty query is answered. -/
theorem ofBytes_beyond :
    Settings.check { dimension := 0x4000000000000000 } = .ok () ∧
      (0x4000000000000000 : UInt64).toNat = 2 ^ 62 ∧
      (Settings.vectorBytes 0x4000000000000000).toNat ≠ 4 * 2 ^ 62 ∧
      Record.ofBytes [] 0x4000000000000000 = .ok ⟨[]⟩ ∧
      ([] : Bytes).length ≠ 4 * 2 ^ 62 ∧
      (Record.mk []).dimension ≠ 2 ^ 62 ∧
      ∃ s : Shard, s.Reached ∧ s.dimension = 0x4000000000000000 ∧
        (s.search 0 1 none []).1 = .ok { results := [], errors := [] } := by
  have hnew : Shard.new { dimension := 0x4000000000000000 } =
    .ok { settings := { dimension := 0x4000000000000000 }
          store := Store.empty 0x4000000000000000 } := rfl
  refine ⟨rfl, rfl, by decide, rfl, by decide, by decide, _, .new hnew, rfl, ?_⟩
  exact (Shard.Reached.new hnew).sound.search_eq 0 (by decide) rfl (q := ⟨[]⟩) rfl

end Nearest
