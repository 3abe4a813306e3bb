import Nearest.Proofs.Columns

/-!
# Alignment of the store's columns

A store is edited by computing with slots. However it is edited, the four columns stay aligned, and
what they hold is what a list of keys with their vectors holds.

* `Store.Aligned` says of the columns alone that they are aligned. It is the same as holding the
  rows that are read off them (`Store.Holds.aligned`, `Store.Aligned.holds`).
* `Rows.run` is the reference: an edit of a list of rows.
* `Store.Holds.run` is the step and `Store.Holds.after` the run; together they give
  `Store.aligned_after`.
-/

namespace Nearest

/-! ## Cutting a list -/

section Chunks

variable {α : Type}

/-- The pieces of length `w` that a list has from its beginning; what is left at its end is
dropped. -/
def chunks (w : Nat) (l : List α) : List (List α) :=
  (List.range (l.length / w)).map fun i => l.extract (i * w) ((i + 1) * w)

/-- A list of `n` pieces is these pieces end to end. -/
theorem flatMap_extract {w n : Nat} {l : List α} (h : l.length = n * w) :
    (List.range n).flatMap (fun i => l.extract (i * w) ((i + 1) * w)) = l := by
  have htake : ∀ m, (List.range m).flatMap (fun i => l.extract (i * w) ((i + 1) * w)) =
      l.take (m * w) := by
    intro m
    induction m with
    | zero => simp
    | succ m ih =>
      rw [List.range_succ, List.flatMap_append, ih, List.flatMap_singleton,
        List.extract_eq_take_drop, Nat.succ_mul, Nat.add_sub_cancel_left, ← List.take_add]
  rw [htake, ← h, List.take_length]

end Chunks

namespace Store

/-! ## Aligned columns -/

/-- The columns of a store are aligned, and its index leads to exactly its slots. -/
structure Aligned (s : Store) : Prop where
  keys : s.keys.toList.Nodup
  slots : ∀ (key : String) (i : Nat), s.slots[key]? = some i ↔ s.keys[i]? = some key
  components : s.components.size = s.size * s.width
  norms : s.norms.size = s.size
  norm : ∀ i < s.size, s.norms[i]? = some (Similarity.norm (s.vector i))

theorem map_fst_toList (s : Store) : s.toList.map (·.1) = s.keys.toList := by
  rw [toList, List.map_map]
  exact List.zipIdx_map_fst 0 _

theorem getElem?_toList (s : Store) (i : Nat) :
    s.toList[i]? = s.keys[i]?.map fun key => (key, s.vector i) := by
  rw [toList, List.getElem?_map, List.getElem?_zipIdx, Array.getElem?_toList]
  cases s.keys[i]? <;> simp

theorem Holds.aligned {s : Store} {rows : List (String × List UInt32)} (h : s.Holds rows) :
    s.Aligned where
  keys := by
    rw [h.keys]
    exact h.distinct
  slots key i := by
    rw [← Array.getElem?_toList, h.keys]
    exact h.slot_iff key i
  components := by
    rw [← Array.length_toList, h.components, length_flatMap_uniform h.width, h.size]
  norms := by
    rw [← Array.length_toList, h.norms, List.length_map, h.size]
  norm i hi := by
    rw [h.size] at hi
    have hrow := List.getElem?_eq_getElem hi
    rw [h.vector hrow, ← Array.getElem?_toList, h.norms, List.getElem?_map, hrow]
    rfl

/-- Aligned columns are those of the rows that are read off them. -/
theorem Aligned.holds {s : Store} (h : s.Aligned) : s.Holds s.toList := by
  have hvector : ∀ i, s.vector i =
      s.components.toList.extract (i * s.width) ((i + 1) * s.width) := fun i =>
    Array.toList_extract
  have hlength : s.components.toList.length = s.size * s.width := by
    rw [Array.length_toList, h.components]
  have hslots : s.toList.map (·.2) = (List.range s.size).map s.vector := by
    rw [toList, List.map_map, size, ← Array.length_toList, List.range_eq_range',
      ← List.zipIdx_map_snd, List.map_map]
    rfl
  refine ⟨s.map_fst_toList.symm, ?_, ?_, ?_, ?_, fun key i => ?_⟩
  · rw [List.flatMap_def, hslots, ← List.flatMap_def, List.flatMap_congr fun i _ => hvector i,
      flatMap_extract hlength]
  · refine List.ext_getElem? fun i => ?_
    rw [List.getElem?_map, getElem?_toList, Array.getElem?_toList]
    by_cases hi : i < s.size
    · rw [h.norm i hi, Array.getElem?_eq_getElem hi]
      rfl
    · rw [Array.getElem?_eq_none (by rw [h.norms]; omega),
        Array.getElem?_eq_none (Nat.le_of_not_lt hi)]
      rfl
  · intro row hrow
    obtain ⟨i, hi, hv⟩ := List.mem_map.1 (hslots ▸ List.mem_map_of_mem hrow)
    have hle : (i + 1) * s.width ≤ s.size * s.width :=
      Nat.mul_le_mul_right _ (List.mem_range.1 hi)
    rw [Nat.succ_mul] at hle
    rw [← hv, hvector, List.extract_eq_take_drop, List.length_take, List.length_drop, hlength,
      Nat.succ_mul]
    omega
  · rw [DistinctKeys, map_fst_toList]
    exact h.keys
  · rw [map_fst_toList, Array.getElem?_toList]
    exact h.slots key i

/-- What a slot has in each column is there. -/
structure InRange (s : Store) (i : Nat) : Prop where
  key : i < s.keys.size
  vector : (i + 1) * s.width ≤ s.components.size
  norm : i < s.norms.size

theorem Aligned.inRange {s : Store} (h : s.Aligned) {i : Nat} (hi : i < s.size) :
    s.InRange i where
  key := hi
  vector := by
    rw [h.components]
    exact Nat.mul_le_mul_right _ hi
  norm := by
    rw [h.norms]
    exact hi

/-- Walking through a store pairs the keys with the pieces of the components. -/
theorem Aligned.zip_chunks {s : Store} (h : s.Aligned) (hw : 0 < s.width) :
    s.keys.toList.zip (chunks s.width s.components.toList) = s.toList := by
  have hcount : s.components.toList.length / s.width = s.keys.toList.length := by
    rw [Array.length_toList, h.components, Nat.mul_div_cancel _ hw, Array.length_toList, size]
  have hvector : ∀ i, s.components.toList.extract (i * s.width) ((i + 1) * s.width) =
      s.vector i := fun i => Array.toList_extract.symm
  simp only [chunks, hcount, hvector]
  rw [List.zip_map_right, List.range_eq_range', ← List.zipIdx_eq_zip_range', toList]
  rfl

/-! ## Edits and their reference -/

/-- The operations that change a store. -/
inductive Edit
  | upsert (key : String) (r : Record)
  | remove (key : String)
  | clear

/-- What an edit answers. -/
inductive Answer
  /-- A record is bound; whether it replaced one. -/
  | bound (replaced : Bool)
  | refused (why : Fault)
  /-- Whether there was a vector to release. -/
  | removed (found : Bool)
  /-- How many vectors were released. -/
  | cleared (count : Nat)

/-- Does one edit of a store. -/
def run (s : Store) : Edit → Answer × Store
  | .upsert key r =>
    match s.upsert key r with
    | .ok (replaced, s) => (.bound replaced, s)
    | .error why => (.refused why, s)
  | .remove key =>
    let (found, s) := s.remove key
    (.removed found, s)
  | .clear =>
    let (count, s) := s.clear
    (.cleared count, s)

/-- Does edits one after the other. -/
def after (s : Store) (edits : List Edit) : Store :=
  edits.foldl (fun s edit => (s.run edit).2) s

end Store

/-- A list of keys with their vectors, the reference for stores. -/
abbrev Rows := List (String × List UInt32)

namespace Rows

open Store (Edit Answer)

/-- Does one edit of rows of a dimension. A new key goes to the end and a known one keeps its
place; where a row is removed, the last one moves into the hole. -/
def run (dimension : UInt64) (rows : Rows) : Edit → Answer × Rows
  | .upsert key r =>
    if r.dimension = dimension.toNat then
      (.bound (rows.lookup key).isSome, Table.insertInto key r.components rows)
    else (.refused (.vectorSize dimension (UInt64.ofNat r.dimension * 4)), rows)
  | .remove key => (.removed (rows.lookup key).isSome, removeRow key rows)
  | .clear => (.cleared rows.length, [])

/-- Does edits one after the other. -/
def after (dimension : UInt64) (rows : Rows) (edits : List Edit) : Rows :=
  edits.foldl (fun rows edit => (run dimension rows edit).2) rows

end Rows

namespace Store

/-- An edit of a store is the same edit of its rows. -/
theorem Holds.run {s : Store} {rows : Rows} (h : s.Holds rows) (edit : Edit) :
    (s.run edit).1 = (rows.run s.dimension edit).1 ∧ (s.run edit).2.dimension = s.dimension ∧
      (s.run edit).2.Holds (rows.run s.dimension edit).2 := by
  cases edit with
  | upsert key r =>
    rw [Store.run, Rows.run]
    by_cases hr : r.dimension = s.width
    · obtain ⟨s', hs', hdim, hholds⟩ := h.upsert key hr
      rw [hs', if_pos (show r.dimension = s.dimension.toNat from hr), h.contains]
      exact ⟨rfl, hdim, hholds⟩
    · rw [Store.upsert, if_pos hr, if_neg (show ¬r.dimension = s.dimension.toNat from hr)]
      exact ⟨rfl, rfl, h⟩
  | remove key =>
    obtain ⟨hfound, hdim, hholds⟩ := h.remove key
    rw [h.contains] at hfound
    exact ⟨congrArg Answer.removed hfound, hdim, hholds⟩
  | clear => exact ⟨congrArg Answer.cleared h.size, rfl, holds_empty s.dimension⟩

/-- Edits of a store are the same edits of its rows. -/
theorem Holds.after {s : Store} {rows : Rows} (h : s.Holds rows) (edits : List Edit) :
    (s.after edits).dimension = s.dimension ∧
      (s.after edits).Holds (rows.after s.dimension edits) := by
  induction edits generalizing s rows with
  | nil => exact ⟨rfl, h⟩
  | cons edit edits ih =>
    obtain ⟨-, hdim, hholds⟩ := h.run edit
    have hrest := ih hholds
    rw [hdim] at hrest
    exact hrest

/-- An edit that is refused or finds nothing leaves the store. -/
theorem snd_run_eq_self {s : Store} {edit : Edit}
    (h : (∃ why, (s.run edit).1 = .refused why) ∨ (s.run edit).1 = .removed false) :
    (s.run edit).2 = s := by
  cases edit with
  | upsert key r =>
    rw [Store.run] at h ⊢
    cases hup : s.upsert key r with
    | error why => rfl
    | ok result => simp [hup] at h
  | remove key =>
    rw [Store.run, remove] at h ⊢
    cases hslot : s.slot? key with
    | none => rfl
    | some slot => simp [hslot] at h
  | clear => simp [Store.run] at h

/-- **Columns stay aligned.** After any edits of an empty store, the columns are aligned and are
those of the rows that the same edits lead to, with the same answers; an edit that is refused or
finds nothing leaves the store, every slot is within the columns, walking through them meets every
key once, and what is read is read off the rows. -/
theorem aligned_after {dimension : UInt64} (hd : dimension ≠ 0) (edits : List Edit) :
    let s := (empty dimension).after edits
    let rows := Rows.after dimension [] edits
    s.Aligned ∧ s.dimension = dimension ∧ s.toList = rows ∧
      (∀ edit, (s.run edit).1 = (rows.run dimension edit).1) ∧
      (∀ edit, (∃ why, (s.run edit).1 = .refused why) ∨ (s.run edit).1 = .removed false →
        (s.run edit).2 = s) ∧
      (∀ i < s.size, s.InRange i) ∧ (∀ key i, s.slot? key = some i → i < s.size) ∧
      s.keys.toList.zip (chunks s.width s.components.toList) = s.toList ∧
      s.toList.length = s.size ∧
      (∀ key, s.get? key = (rows.lookup key).map Record.mk) ∧
      (∀ key, s.contains key = (rows.lookup key).isSome) ∧
      s.size = rows.length ∧ s.keys.toList = rows.map (·.1) := by
  intro s rows
  obtain ⟨hdim, hholds⟩ := (holds_empty dimension).after edits
  have hw : 0 < s.width := by
    rw [width, hdim]
    exact Nat.pos_of_ne_zero fun h => hd (UInt64.toNat_inj.1 h)
  have hrows : s.toList = rows := hholds.toList
  refine ⟨hholds.aligned, hdim, hrows, fun edit => ?_, fun edit => snd_run_eq_self,
    fun i => hholds.aligned.inRange, fun key i hi => ?_, hholds.aligned.zip_chunks hw, ?_,
    hholds.get?, hholds.contains, hholds.size, hholds.keys⟩
  · have hedit := (hholds.run edit).1
    rwa [hdim] at hedit
  · have hkey := (hholds.slot_iff key i).1 hi
    rw [hholds.size]
    simpa using (List.getElem?_eq_some_iff.1 hkey).1
  · rw [hrows, hholds.size]
    rfl

/-- The last vector moves into a hole, and a vector of another dimension is refused. -/
theorem aligned_after_hole :
    (1 : UInt64) ≠ 0 ∧
      ((empty 1).after [.upsert "a" ⟨[1]⟩, .upsert "b" ⟨[2]⟩, .upsert "c" ⟨[3]⟩, .remove "a",
        .upsert "b" ⟨[4, 5]⟩]).toList = [("c", [3]), ("b", [2])] := by
  refine ⟨by decide, (aligned_after (by decide) _).2.2.1.trans ?_⟩
  rfl

end Store

end Nearest
