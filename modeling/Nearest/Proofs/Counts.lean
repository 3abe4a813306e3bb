import Mathlib.Data.Set.Card
import Nearest.Proofs.Reached

/-!
# Counting keys

A shard does not count its live keys. It takes the sizes of its tables and subtracts the number of
deadlines that have passed. That this is the same rests on the tables being in step
(`Shard.Sound`): each deadline belongs to one key of one table.

* `encard_without`: a list without repetitions less some of its elements, counted.
* `Sound.encard_vectors` and `Sound.encard_keys`: the two counts of a shard.
* `Shard.Counted` puts together what makes the counts right, and `Reached.counted` says that it
  holds of every shard that is reached, at any time.
-/

namespace Nearest

theorem encard_of_nodup {α : Type} [DecidableEq α] {l : List α} (h : l.Nodup) :
    {a | a ∈ l}.encard = l.length := by
  rw [← List.coe_toFinset, Set.encard_coe_eq_coe_finsetCard, List.toFinset_card_of_nodup h]

/-- Leaving elements out of a list without repetitions leaves the difference of the lengths. -/
theorem encard_without {α : Type} [DecidableEq α] {all out : List α} (hall : all.Nodup)
    (hout : out.Nodup) (hsub : out ⊆ all) :
    {a | a ∈ all ∧ a ∉ out}.encard = (all.length - out.length : ℕ) := by
  have hset : {a | a ∈ all ∧ a ∉ out} = ↑(all.toFinset \ out.toFinset) := by
    ext a
    simp
  have hsubset : out.toFinset ⊆ all.toFinset := fun a ha =>
    List.mem_toFinset.2 (hsub (List.mem_toFinset.1 ha))
  rw [hset, Set.encard_coe_eq_coe_finsetCard, Finset.card_sdiff_of_subset hsubset,
    List.toFinset_card_of_nodup hall, List.toFinset_card_of_nodup hout]

namespace Shard

variable {s : Shard} {now : Nat} {key : String}

/-- The keys of a shard, due or not: those of the vectors, then those of the plain values. -/
def allKeys (s : Shard) : List String :=
  s.vectorKeys ++ s.plain.toList.map (·.1)

theorem length_vectorKeys (s : Shard) : s.vectorKeys.length = s.store.size :=
  Array.length_toList

theorem length_allKeys (s : Shard) : s.allKeys.length = s.store.size + s.plain.size := by
  rw [allKeys, List.length_append, length_vectorKeys, List.length_map, Table.size]

namespace Sound

/-! ## The keys of the tables -/

theorem mem_vectorKeys (h : s.Sound) : key ∈ s.vectorKeys ↔ s.store.contains key = true := by
  obtain ⟨rows, hrows⟩ := h.columns
  rw [vectorKeys, hrows.keys, hrows.contains, lookup_isSome_iff_mem]

/-- The keys of the vectors are those that are bound to one. -/
theorem contains_iff (h : s.Sound) : s.store.contains key = true ↔
    ∃ b, s.binding? key = some b ∧ b.vector?.isSome := by
  obtain ⟨rows, hrows⟩ := h.columns
  rw [hrows.contains_eq_isSome, vector_eq]
  cases s.binding? key <;> simp

theorem nodup_vectorKeys (h : s.Sound) : s.vectorKeys.Nodup := by
  obtain ⟨rows, hrows⟩ := h.columns
  rw [vectorKeys, hrows.keys]
  exact hrows.distinct

/-- A shard with some of the vectors' keys has at most as many vectors. -/
theorem size_le {s' : Shard} (h : s.Sound) (h' : s'.Sound)
    (hsub : ∀ key, s'.store.contains key = true → s.store.contains key = true) :
    s'.store.size ≤ s.store.size := by
  have hkeys : s'.vectorKeys ⊆ s.vectorKeys := fun key hkey =>
    h.mem_vectorKeys.2 (hsub key (h'.mem_vectorKeys.1 hkey))
  rw [← length_vectorKeys, ← length_vectorKeys]
  exact (h'.nodup_vectorKeys.subperm hkeys).length_le

/-- A shard that holds the vectors of a keyspace and nothing else has as many. -/
theorem size_eq_of_keyspace (h : s.Sound) {k : Keyspace} (hk : k.Distinct)
    (hb : ∀ key, s.binding? key = k.get? key) (hvector : ∀ row ∈ k.toList, row.2.vector?.isSome) :
    s.store.size = k.size := by
  have hkeys : s.vectorKeys.Perm (k.toList.map (·.1)) := by
    rw [List.perm_ext_iff_of_nodup h.nodup_vectorKeys hk]
    intro key
    rw [h.mem_vectorKeys, h.contains_iff, hb, ← lookup_isSome_iff_mem, Option.isSome_iff_exists]
    exact ⟨fun ⟨b, hget, _⟩ => ⟨b, hget⟩, fun ⟨b, hget⟩ =>
      ⟨b, hget, hvector (key, b) (mem_of_lookup hget)⟩⟩
  rw [← length_vectorKeys, hkeys.length_eq, List.length_map, Table.size]

theorem mem_allKeys (h : s.Sound) : key ∈ s.allKeys ↔ s.holds key = true := by
  rw [allKeys, List.mem_append, h.mem_vectorKeys, ← lookup_isSome_iff_mem, holds, Bool.or_eq_true,
    Table.contains_eq_isSome, Table.get?]

/-- No key has both a vector and a plain value. -/
theorem contains_apart (h : s.Sound) (key : String) :
    s.store.contains key = false ∨ s.plain.contains key = false := by
  obtain ⟨rows, hrows⟩ := h.columns
  rw [hrows.contains_eq_isSome, Table.contains_eq_isSome, Option.isSome_eq_false_iff,
    Option.isSome_eq_false_iff, Option.isNone_iff_eq_none, Option.isNone_iff_eq_none]
  exact h.apart key

theorem nodup_allKeys (h : s.Sound) : s.allKeys.Nodup := by
  refine List.nodup_append.2 ⟨h.nodup_vectorKeys, h.plain, fun key hv k hp he => ?_⟩
  rw [h.mem_vectorKeys] at hv
  rw [← he, ← lookup_isSome_iff_mem, ← Table.get?, ← Table.contains_eq_isSome] at hp
  have := h.contains_apart key
  rw [hv, hp] at this
  simp at this

/-- A key with a deadline holds something. -/
theorem holds_of_deadline (h : s.Sound) (hkey : s.deadlines.contains key = true) :
    s.holds key = true := by
  rw [Table.contains_eq_isSome, h.deadline_eq] at hkey
  rw [h.holds_eq]
  cases hb : s.binding? key with
  | none => simp [hb] at hkey
  | some b => rfl

/-! ## The keys that are due -/

theorem notMem_due (h : s.Sound) : key ∉ s.due now ↔ ∀ d ∈ s.deadlines.get? key, now < d := by
  rw [h.mem_due, isDue, Option.any_eq_true]
  simp

theorem due_vectors_subset (h : s.Sound) (now : Nat) :
    (s.due now).filter s.store.contains ⊆ s.vectorKeys := fun _ hkey =>
  h.mem_vectorKeys.2 (List.mem_filter.1 hkey).2

theorem due_subset (h : s.Sound) (now : Nat) : s.due now ⊆ s.allKeys := by
  intro key hkey
  refine h.mem_allKeys.2 (h.holds_of_deadline ?_)
  rw [h.mem_due, isDue] at hkey
  rw [Table.contains_eq_isSome]
  cases hd : s.deadlines.get? key with
  | none => simp [hd] at hkey
  | some d => rfl

/-- A vector is live iff its key is resident and the deadline has not passed. -/
theorem isSome_vector? (h : s.Sound) : (s.vector? now key).isSome = true ↔
    s.store.contains key = true ∧ ∀ d ∈ s.deadlines.get? key, now < d := by
  obtain ⟨rows, hrows⟩ := h.columns
  rw [← h.notMem_due, h.mem_due, vector?, hrows.contains_eq_isSome]
  split <;> simp [*]

theorem isSome_filter_isLive (h : s.Sound) :
    ((s.binding? key).filter (·.isLive now)).isSome = true ↔
      s.holds key = true ∧ ∀ d ∈ s.deadlines.get? key, now < d := by
  rw [← h.notMem_due, h.mem_due, h.filter_isLive, h.holds_eq]
  split <;> simp [*]

theorem encard_vectors (h : s.Sound) (now : Nat) :
    {key | s.store.contains key = true ∧ ∀ d ∈ s.deadlines.get? key, now < d}.encard =
      s.vectorCount now := by
  have hlive : {key | s.store.contains key = true ∧ ∀ d ∈ s.deadlines.get? key, now < d} =
      {key | key ∈ s.vectorKeys ∧ key ∉ (s.due now).filter s.store.contains} := by
    ext key
    simp only [Set.mem_ofPred_eq, h.mem_vectorKeys, List.mem_filter, ← h.notMem_due]
    tauto
  rw [hlive, encard_without h.nodup_vectorKeys ((h.nodup_due now).filter _)
    (h.due_vectors_subset now), length_vectorKeys, vectorCount]

theorem encard_keys (h : s.Sound) (now : Nat) :
    {key | s.holds key = true ∧ ∀ d ∈ s.deadlines.get? key, now < d}.encard = s.keyCount now := by
  have hlive : {key | s.holds key = true ∧ ∀ d ∈ s.deadlines.get? key, now < d} =
      {key | key ∈ s.allKeys ∧ key ∉ s.due now} := by
    ext key
    simp only [Set.mem_ofPred_eq, h.mem_allKeys, ← h.notMem_due]
  rw [hlive, encard_without h.nodup_allKeys (h.nodup_due now) (h.due_subset now), length_allKeys,
    keyCount]

theorem vectorCount_of_not_due (h : s.Sound) (hdue : ∀ key, s.isDue now key = false) :
    s.vectorCount now = s.store.size := by
  rw [vectorCount, h.due_eq_nil hdue]
  rfl

/-- The vectors are counted by what is live of them. -/
theorem vectorCount_congr {s' : Shard} (h : s.Sound) (h' : s'.Sound)
    (heq : ∀ key, s'.vector? now key = s.vector? now key) :
    s'.vectorCount now = s.vectorCount now := by
  rw [← Nat.cast_inj (R := ℕ∞), ← h.encard_vectors, ← h'.encard_vectors]
  congr 1
  ext key
  rw [Set.mem_ofPred_eq, Set.mem_ofPred_eq, ← h.isSome_vector?, ← h'.isSome_vector?, heq]

/-- The keys are counted by what is live of their bindings. -/
theorem keyCount_congr {s' : Shard} (h : s.Sound) (h' : s'.Sound)
    (heq : ∀ key,
      (s'.binding? key).filter (·.isLive now) = (s.binding? key).filter (·.isLive now)) :
    s'.keyCount now = s.keyCount now := by
  rw [← Nat.cast_inj (R := ℕ∞), ← h.encard_keys, ← h'.encard_keys]
  congr 1
  ext key
  rw [Set.mem_ofPred_eq, Set.mem_ofPred_eq, ← h.isSome_filter_isLive, ← h'.isSome_filter_isLive,
    heq]

end Sound

/-! ## The counts -/

/-- The tables of a shard are consistent, and at a time its counts are those of its live keys. -/
structure Counted (s : Shard) (now : Nat) : Prop where
  apart : ∀ key, s.store.contains key = false ∨ s.plain.contains key = false
  resident : ∀ key, s.deadlines.contains key = true → s.holds key = true
  vectors_due_le : ((s.due now).filter s.store.contains).length ≤ s.store.size
  due_le : (s.due now).length ≤ s.store.size + s.plain.size
  vectors : {key | s.store.contains key = true ∧ ∀ d ∈ s.deadlines.get? key, now < d}.encard =
    s.vectorCount now
  keys : {key | s.holds key = true ∧ ∀ d ∈ s.deadlines.get? key, now < d}.encard = s.keyCount now
  le : s.vectorCount now ≤ s.keyCount now

/-- **The counts are exact** in every shard that is reached, at any time and however many deadlines
have passed unnoticed: no subtraction goes below zero, the vectors that are counted are those
without a deadline or with one to come, and likewise the keys. -/
theorem Reached.counted (h : s.Reached) (now : Nat) : s.Counted now := by
  have hs := h.sound
  have hvectors := hs.encard_vectors now
  have hkeys := hs.encard_keys now
  refine ⟨hs.contains_apart, fun key => hs.holds_of_deadline, ?_, ?_, hvectors, hkeys, ?_⟩
  · rw [← length_vectorKeys]
    exact (((hs.nodup_due now).filter _).subperm (hs.due_vectors_subset now)).length_le
  · rw [← length_allKeys]
    exact ((hs.nodup_due now).subperm (hs.due_subset now)).length_le
  · rw [← Nat.cast_le (α := ℕ∞), ← hvectors, ← hkeys]
    refine Set.encard_le_encard fun key hkey => ⟨?_, hkey.2⟩
    rw [holds, hkey.1, Bool.true_or]

/-- A vector that has expired and is still there is counted neither as a vector nor as a key. -/
theorem counted_overdue : ∃ s : Shard, s.Reached ∧ s.store.contains "b" = true ∧
    s.isDue 9 "b" = true ∧ s.vectorCount 9 = 1 ∧ s.keyCount 9 = 2 := by
  obtain ⟨s, hreached, -, hbinding⟩ := exists_reached
    (rfl : Settings.check { dimension := 1 } = .ok ()) ⟨[("a", ⟨.vector ⟨[1]⟩, none⟩),
      ("b", ⟨.vector ⟨[2]⟩, some 4⟩), ("c", ⟨.plain [7], none⟩)]⟩ (by decide)
  have hs := hreached.sound
  have hcontains : (s.vector? 0 "b").isSome = true := by
    rw [hs.vector?_eq, hbinding]
    rfl
  have hvectors : {key | s.store.contains key = true ∧ ∀ d ∈ s.deadlines.get? key, 9 < d} =
      {"a"} := by
    ext key
    rw [Set.mem_ofPred_eq, ← hs.isSome_vector?, hs.vector?_eq, hbinding, Table.get?]
    simp only [lookup_cons_ite]
    split_ifs with ha hb hc
    · exact iff_of_true rfl ha
    · exact iff_of_false Bool.false_ne_true ha
    · exact iff_of_false Bool.false_ne_true ha
    · exact iff_of_false Bool.false_ne_true ha
  have hkeys : {key | s.holds key = true ∧ ∀ d ∈ s.deadlines.get? key, 9 < d} = {"a", "c"} := by
    ext key
    rw [Set.mem_ofPred_eq, ← hs.isSome_filter_isLive, hbinding, Table.get?]
    simp only [lookup_cons_ite]
    split_ifs with ha hb hc
    · exact iff_of_true rfl (.inl ha)
    · exact iff_of_false Bool.false_ne_true (by simp [hb])
    · exact iff_of_true rfl (.inr hc)
    · exact iff_of_false Bool.false_ne_true (by simp [ha, hc])
  have hcounted := hreached.counted 9
  refine ⟨s, hreached, (hs.isSome_vector?.1 hcontains).1, ?_, ?_, ?_⟩
  · rw [hs.isDue_eq, hbinding]
    rfl
  · have := hcounted.vectors
    rw [hvectors, Set.encard_singleton] at this
    exact_mod_cast this.symm
  · have := hcounted.keys
    rw [hkeys, Set.encard_pair (by decide)] at this
    exact_mod_cast this.symm

end Shard

end Nearest
