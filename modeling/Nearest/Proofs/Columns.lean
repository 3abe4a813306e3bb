import Mathlib.Data.List.Perm.Basic
import Nearest.Proofs.Table
import Nearest.Store

/-!
# Columns and rows

The vector store keeps four parallel columns and an index. `Store.Holds s rows` says that they are
laid out as the list `rows` of keys with their vectors, one row for each slot: the columns are
aligned, the norms are those of the vectors, and the index leads to each key's slot.

* `Store.Holds.vector`, `Store.Holds.norm`, `Store.Holds.toList`, `Store.Holds.get?` read the rows
  off the columns.
* `Store.holds_empty`, `Store.Holds.upsert`, `Store.Holds.remove`: every operation on the columns is
  one on the rows. A new key goes to the end and a known one keeps its place
  (`Table.insertInto`), removing moves the last row into the hole (`removeRow`).
-/

namespace Nearest

/-! ## Lists of rows of one width -/

section Uniform

variable {α β : Type} {w : Nat} {f : α → List β}

theorem length_flatMap_uniform {l : List α} (hw : ∀ x ∈ l, (f x).length = w) :
    (l.flatMap f).length = l.length * w := by
  induction l with
  | nil => simp
  | cons x l ih =>
    rw [List.flatMap_cons, List.length_append, hw x (by simp), ih fun y hy => hw y (by simp [hy]),
      List.length_cons, Nat.succ_mul, Nat.add_comm]

theorem take_flatMap_uniform {l : List α} (hw : ∀ x ∈ l, (f x).length = w) (n : Nat) :
    (l.flatMap f).take (n * w) = (l.take n).flatMap f := by
  induction l generalizing n with
  | nil => simp
  | cons x l ih =>
    cases n with
    | zero => simp
    | succ n =>
      have hx : (f x).length = w := hw x (by simp)
      rw [List.flatMap_cons, List.take_succ_cons, List.flatMap_cons,
        ← ih (fun y hy => hw y (by simp [hy])) n, Nat.succ_mul, Nat.add_comm, ← hx,
        List.take_length_add_append]

theorem drop_flatMap_uniform {l : List α} (hw : ∀ x ∈ l, (f x).length = w) (n : Nat) :
    (l.flatMap f).drop (n * w) = (l.drop n).flatMap f := by
  induction l generalizing n with
  | nil => simp
  | cons x l ih =>
    cases n with
    | zero => simp
    | succ n =>
      have hx : (f x).length = w := hw x (by simp)
      rw [List.flatMap_cons, List.drop_succ_cons, ← ih (fun y hy => hw y (by simp [hy])) n,
        Nat.succ_mul, Nat.add_comm, ← hx, List.drop_length_add_append]

/-- One row of a list of rows, cut out of the rows end to end. -/
theorem extract_flatMap_uniform {l : List α} (hw : ∀ x ∈ l, (f x).length = w) {n : Nat} {x : α}
    (hn : l[n]? = some x) : (l.flatMap f).extract (n * w) ((n + 1) * w) = f x := by
  obtain ⟨hlt, rfl⟩ := List.getElem?_eq_some_iff.1 hn
  have hx : (f l[n]).length = w := hw _ (List.getElem_mem hlt)
  rw [List.extract_eq_take_drop, drop_flatMap_uniform hw, List.drop_eq_getElem_cons hlt,
    List.flatMap_cons, show (n + 1) * w - n * w = (f l[n]).length by rw [hx, Nat.succ_mul]; omega,
    List.take_left]

end Uniform

/-! ## Removing a row -/

section Rows

variable {α : Type}

/-- Takes the last element out of a list and puts it into the place `i`, if that is another. -/
def moveLast (l : List α) (i : Nat) : List α :=
  match l.getLast? with
  | some last => (l.set i last).dropLast
  | none => []

theorem moveLast_concat (init : List α) (last : α) (i : Nat) :
    moveLast (init ++ [last]) i = if i < init.length then init.set i last else init := by
  simp only [moveLast, List.getLast?_concat, List.set_append]
  split
  · exact List.dropLast_concat
  · cases i - init.length <;> exact List.dropLast_concat

theorem map_moveLast {β : Type} (f : α → β) (l : List α) (i : Nat) :
    (moveLast l i).map f = moveLast (l.map f) i := by
  rcases List.eq_nil_or_concat' l with rfl | ⟨init, last, rfl⟩
  · rfl
  · rw [List.map_append, List.map_singleton, moveLast_concat, moveLast_concat, List.length_map]
    split
    · exact List.map_set
    · rfl

/-- Where the elements of a list without repetitions are after the last one has moved. -/
theorem getElem?_moveLast {init : List α} {last x y : α} {i j : Nat}
    (h : (init ++ [last]).Nodup) (hi : (init ++ [last])[i]? = some x) :
    (moveLast (init ++ [last]) i)[j]? = some y ↔
      y ≠ x ∧ (y = last ∧ j = i ∨ y ≠ last ∧ (init ++ [last])[j]? = some y) := by
  obtain ⟨hinit, -, hdisj⟩ := List.nodup_append.1 h
  have hlast : ∀ m : Nat, init[m]? ≠ some last := fun m hm =>
    hdisj last (List.mem_of_getElem? hm) last (by simp) rfl
  have happ : ∀ {m : Nat} {z}, z ≠ last → ((init ++ [last])[m]? = some z ↔ init[m]? = some z) := by
    intro m z hz
    rw [List.getElem?_append]
    split
    · rfl
    · have hnone : init[m]? = none := List.getElem?_eq_none (by omega)
      rw [hnone, List.getElem?_singleton]
      split <;> simp [hz.symm]
  rw [moveLast_concat]
  split
  · rename_i hlt
    rw [List.getElem?_append_left hlt] at hi
    have hx : x ≠ last := fun e => hlast i (e ▸ hi)
    rw [List.getElem?_set]
    by_cases hj : i = j
    · subst hj
      rw [if_pos rfl, if_pos hlt, Option.some_inj]
      grind
    · have hne : init[j]? = some y → y ≠ x := fun hy e =>
        hj ((List.getElem?_inj hlt hinit).1 (hi.trans (e ▸ hy).symm))
      rw [if_neg hj]
      grind
  · rename_i hge
    obtain rfl : x = last := by
      rw [List.getElem?_append_right (by omega)] at hi
      exact List.mem_singleton.1 (List.mem_of_getElem? hi)
    grind

/-- Moving the last element into a place leaves out what was there. -/
theorem moveLast_perm_eraseIdx {l : List α} {i : Nat} (hi : i < l.length) :
    (moveLast l i).Perm (l.eraseIdx i) := by
  rcases List.eq_nil_or_concat' l with rfl | ⟨init, last, rfl⟩
  · simp at hi
  · rw [List.length_append, List.length_singleton] at hi
    rw [moveLast_concat]
    split
    · rename_i h
      rw [List.eraseIdx_append_of_lt_length h]
      exact (List.set_perm_cons_eraseIdx h last).trans (List.perm_append_singleton _ _).symm
    · rename_i h
      obtain rfl : i = init.length := by omega
      rw [List.eraseIdx_append_of_length_le (Nat.le_refl _), Nat.sub_self]
      simp

/-- Removes the row of a key; the last row moves into the hole. -/
def removeRow (key : String) (rows : List (String × α)) : List (String × α) :=
  match (rows.map (·.1)).idxOf? key with
  | some i => moveLast rows i
  | none => rows

theorem removeRow_of_notMem {key : String} {rows : List (String × α)}
    (h : key ∉ rows.map (·.1)) : removeRow key rows = rows := by
  rw [removeRow, List.idxOf?_eq_none_iff.2 h]

theorem removeRow_eq_moveLast {key : String} {rows : List (String × α)} (h : DistinctKeys rows)
    {i : Nat} (hi : (rows.map (·.1))[i]? = some key) : removeRow key rows = moveLast rows i := by
  obtain ⟨hlt, hkey⟩ := List.getElem?_eq_some_iff.1 hi
  have hfirst : (rows.map (·.1)).idxOf? key = some i := by
    refine List.idxOf?_eq_some_iff.2 ⟨hlt, hkey, fun j hj he => ?_⟩
    have := (List.Nodup.getElem_inj_iff h).1 (he.trans hkey.symm)
    omega
  rw [removeRow, hfirst]

theorem eraseIdx_eq_filter {key : String} {rows : List (String × α)} (h : DistinctKeys rows)
    {i : Nat} (hi : (rows.map (·.1))[i]? = some key) :
    rows.eraseIdx i = rows.filter fun row => row.1 != key := by
  induction rows generalizing i with
  | nil => simp at hi
  | cons row rows ih =>
    obtain ⟨hk, hl⟩ := List.nodup_cons.1 h
    cases i with
    | zero =>
      obtain rfl : row.1 = key := by simpa using hi
      rw [List.eraseIdx_cons_zero, List.filter_cons_of_neg (by simp), List.filter_eq_self.2]
      intro r hr
      have : r.1 ≠ row.1 := fun e => hk (List.mem_map.2 ⟨r, hr, e⟩)
      simpa using this
    | succ i =>
      have hi' : (rows.map (·.1))[i]? = some key := by simpa using hi
      have hne : row.1 ≠ key := fun e => hk (by simpa only [e] using List.mem_of_getElem? hi')
      rw [List.eraseIdx_cons_succ, List.filter_cons_of_pos (by simpa using hne), ih hl hi']

theorem removeRow_perm {key : String} {rows : List (String × α)} (h : DistinctKeys rows) :
    (removeRow key rows).Perm (rows.filter fun row => row.1 != key) := by
  by_cases hk : key ∈ rows.map (·.1)
  · obtain ⟨i, hlt, hi⟩ := List.getElem_of_mem hk
    have hi' : (rows.map (·.1))[i]? = some key := List.getElem?_eq_some_iff.2 ⟨hlt, hi⟩
    rw [removeRow_eq_moveLast h hi', ← eraseIdx_eq_filter h hi']
    exact moveLast_perm_eraseIdx (by simpa using hlt)
  · rw [removeRow_of_notMem hk, List.filter_eq_self.2]
    rintro ⟨k, a⟩ hm
    have : k ≠ key := fun e => hk (e ▸ List.mem_map_of_mem hm)
    simpa using this

theorem distinctKeys_removeRow {rows : List (String × α)} (h : DistinctKeys rows) (key : String) :
    DistinctKeys (removeRow key rows) :=
  (h.filter _).perm (removeRow_perm h).symm

theorem lookup_removeRow {rows : List (String × α)} (h : DistinctKeys rows) (key k : String) :
    (removeRow key rows).lookup k = if k = key then none else rows.lookup k := by
  rw [lookup_perm (distinctKeys_removeRow h key) (removeRow_perm h),
    lookup_filter_key rows (· != key) k]
  by_cases hk : k = key <;> simp [hk]

end Rows

/-! ## Writing into the components -/

namespace Store

theorem toList_overwrite (a : Array UInt32) (i : Nat) (ws : List UInt32)
    (h : i + ws.length ≤ a.size) :
    (overwrite a i ws).toList = a.toList.take i ++ ws ++ a.toList.drop (i + ws.length) := by
  induction ws generalizing a i with
  | nil => simp [overwrite]
  | cons w ws ih =>
    rw [List.length_cons] at h
    have hi : i < a.toList.length := by simp; omega
    rw [overwrite, ih _ _ (by simp; omega), Array.toList_setIfInBounds, List.take_add_one,
      List.take_set_of_le (Nat.le_refl _), List.getElem?_set_self hi,
      List.drop_set_of_lt (by omega), List.length_cons,
      show i + 1 + ws.length = i + (ws.length + 1) by omega]
    simp

/-- Overwriting one row of a list of rows of one width. -/
theorem toList_overwrite_flatMap {α : Type} {f : α → List UInt32} {w : Nat} {a : Array UInt32}
    {l : List α} (ha : a.toList = l.flatMap f) (hw : ∀ x ∈ l, (f x).length = w) {i : Nat}
    (hi : i < l.length) {x : α} (hx : (f x).length = w) :
    (overwrite a (i * w) (f x)).toList = (l.set i x).flatMap f := by
  have hsize : a.size = l.length * w := by
    rw [← Array.length_toList, ha, length_flatMap_uniform hw]
  have hle : (i + 1) * w ≤ l.length * w := Nat.mul_le_mul_right w hi
  rw [toList_overwrite _ _ _ (by rw [hx, hsize]; rw [Nat.succ_mul] at hle; omega), ha, hx,
    ← Nat.succ_mul, take_flatMap_uniform hw, drop_flatMap_uniform hw,
    List.set_eq_take_append_cons_drop, if_pos hi]
  simp

/-! ## The layout -/

/-- The columns of a store are those of these rows, one for each slot. -/
structure Holds (s : Store) (rows : List (String × List UInt32)) : Prop where
  keys : s.keys.toList = rows.map (·.1)
  components : s.components.toList = rows.flatMap (·.2)
  norms : s.norms.toList = rows.map fun row => Similarity.norm row.2
  width : ∀ row ∈ rows, row.2.length = s.width
  distinct : DistinctKeys rows
  slot_iff : ∀ key i, s.slot? key = some i ↔ (rows.map (·.1))[i]? = some key

theorem holds_empty (dimension : UInt64) : (empty dimension).Holds [] where
  keys := rfl
  components := rfl
  norms := rfl
  width := by simp
  distinct := .nil
  slot_iff := by simp [slot?, empty]

namespace Holds

variable {s : Store} {rows : List (String × List UInt32)}

/-! ### Reading -/

theorem size (h : s.Holds rows) : s.size = rows.length := by
  rw [Store.size, ← Array.length_toList, h.keys, List.length_map]

theorem vector (h : s.Holds rows) {i : Nat} {row : String × List UInt32}
    (hi : rows[i]? = some row) :
    s.vector i = row.2 := by
  rw [Store.vector, Array.toList_extract, h.components]
  exact extract_flatMap_uniform h.width hi

theorem norm (h : s.Holds rows) {i : Nat} {row : String × List UInt32} (hi : rows[i]? = some row) :
    s.norm i = Similarity.norm row.2 := by
  have : s.norms[i]? = some (Similarity.norm row.2) := by
    rw [← Array.getElem?_toList, h.norms, List.getElem?_map, hi]
    rfl
  rw [Store.norm, Array.getD_eq_getD_getElem?, this, Option.getD_some]

theorem key (h : s.Holds rows) {i : Nat} {row : String × List UInt32} (hi : rows[i]? = some row) :
    s.key i = row.1 := by
  have : s.keys[i]? = some row.1 := by
    rw [← Array.getElem?_toList, h.keys, List.getElem?_map, hi]
    rfl
  rw [Store.key, Array.getD_eq_getD_getElem?, this, Option.getD_some]

theorem toList (h : s.Holds rows) : s.toList = rows := by
  rw [Store.toList, h.keys]
  refine List.ext_getElem? fun i => ?_
  rw [List.getElem?_map, List.getElem?_zipIdx, List.getElem?_map]
  cases hi : rows[i]? with
  | none => rfl
  | some row => simp [h.vector hi]

theorem slot?_eq_none (h : s.Holds rows) {key : String} :
    s.slot? key = none ↔ key ∉ rows.map (·.1) := by
  constructor
  · intro hn hm
    obtain ⟨i, hlt, hi⟩ := List.getElem_of_mem hm
    simp [(h.slot_iff key i).2 (List.getElem?_eq_some_iff.2 ⟨hlt, hi⟩)] at hn
  · intro hm
    cases hs : s.slot? key with
    | none => rfl
    | some i => exact absurd (List.mem_of_getElem? ((h.slot_iff key i).1 hs)) hm

theorem get? (h : s.Holds rows) (key : String) :
    s.get? key = (rows.lookup key).map Record.mk := by
  unfold Store.get?
  cases hs : s.slot? key with
  | none => rw [lookup_eq_none_iff_notMem.2 (h.slot?_eq_none.1 hs)]; rfl
  | some i =>
    have hi := (h.slot_iff key i).1 hs
    rw [List.getElem?_map, Option.map_eq_some_iff] at hi
    obtain ⟨⟨k, v⟩, hi, rfl⟩ := hi
    rw [(mem_iff_lookup h.distinct).1 (List.mem_of_getElem? hi)]
    simp [h.vector hi]

theorem contains (h : s.Holds rows) (key : String) :
    s.contains key = (rows.lookup key).isSome := by
  have : s.contains key = (s.slot? key).isSome := by
    rw [Store.contains, slot?, Std.HashMap.isSome_getElem?_eq_contains]
  have hg := congrArg Option.isSome (h.get? key)
  rwa [Store.get?, Option.isSome_map, Option.isSome_map, ← this] at hg

/-- The entries of the columns in a key's slot. -/
theorem of_slot (h : s.Holds rows) {key : String} {i : Nat} (hi : s.slot? key = some i) :
    s.get? key = some ⟨s.vector i⟩ ∧ s.norm i = Similarity.norm (s.vector i) := by
  have hkey := (h.slot_iff key i).1 hi
  rw [List.getElem?_map, Option.map_eq_some_iff] at hkey
  obtain ⟨row, hrow, rfl⟩ := hkey
  rw [Store.get?, hi, h.vector hrow, h.norm hrow]
  exact ⟨congrArg (fun v => some (Record.mk v)) (h.vector hrow), rfl⟩

/-! ### Binding -/

theorem set_row (h : s.Holds rows) {key : String} {i : Nat} (hi : s.slot? key = some i)
    {v : List UInt32} (hv : v.length = s.width) :
    Holds { s with
      components := overwrite s.components (i * s.width) v
      norms := s.norms.setIfInBounds i (Similarity.norm v) } (rows.set i (key, v)) := by
  obtain ⟨hlt', hkey⟩ := List.getElem?_eq_some_iff.1 ((h.slot_iff key i).1 hi)
  have hlt : i < rows.length := by simpa using hlt'
  have hkeys : (rows.set i (key, v)).map (·.1) = rows.map (·.1) := by
    have hself := List.set_getElem_self hlt'
    rw [hkey] at hself
    rw [List.map_set, hself]
  refine ⟨?_, ?_, ?_, ?_, ?_, ?_⟩
  · rw [hkeys, h.keys]
  · exact toList_overwrite_flatMap (x := (key, v)) h.components h.width hlt hv
  · rw [Array.toList_setIfInBounds, h.norms, List.map_set]
  · intro row hrow
    rcases List.mem_or_eq_of_mem_set hrow with hrow | rfl
    · exact h.width row hrow
    · exact hv
  · rw [DistinctKeys, hkeys]; exact h.distinct
  · rw [hkeys]; exact h.slot_iff

theorem push_row (h : s.Holds rows) {key : String} (hk : key ∉ rows.map (·.1))
    {v : List UInt32} (hv : v.length = s.width) :
    Holds { s with
      slots := s.slots.insert key s.keys.size
      keys := s.keys.push key
      components := s.components ++ v
      norms := s.norms.push (Similarity.norm v) } (rows ++ [(key, v)]) where
  keys := by simp [h.keys]
  components := by simp [h.components]
  norms := by simp [h.norms]
  width := by
    intro row hrow
    rcases List.mem_append.1 hrow with hrow | hrow
    · exact h.width row hrow
    · rw [List.mem_singleton.1 hrow]; exact hv
  distinct := by
    rw [← Table.insertInto_of_notMem hk v]
    exact Table.distinctKeys_insertInto h.distinct key v
  slot_iff := by
    intro k i
    have hsize : s.keys.size = (rows.map (·.1)).length := by rw [List.length_map]; exact h.size
    rw [slot?, Std.HashMap.getElem?_insert, List.map_append, hsize]
    by_cases hkk : key = k
    · subst hkk
      have hnone : ∀ i, (rows.map (·.1))[i]? ≠ some key := fun i hi => hk (List.mem_of_getElem? hi)
      rw [if_pos (beq_self_eq_true key), Option.some_inj, List.getElem?_append]
      split
      · exact iff_of_false (by omega) (hnone i)
      · rw [List.map_singleton, List.getElem?_singleton]
        split
        · exact iff_of_true (by omega) rfl
        · exact iff_of_false (by omega) (by simp)
    · rw [if_neg (by simpa using hkk), List.getElem?_append]
      refine (h.slot_iff k i).trans ?_
      split
      · rfl
      · rw [List.getElem?_eq_none (by omega), List.map_singleton, List.getElem?_singleton]
        split <;> simp [hkk]

theorem upsert (h : s.Holds rows) (key : String) {r : Record} (hr : r.dimension = s.width) :
    ∃ s', s.upsert key r = .ok (s.contains key, s') ∧ s'.dimension = s.dimension ∧
      s'.Holds (Table.insertInto key r.components rows) := by
  rw [Store.upsert, if_neg (by simpa using hr), h.contains]
  cases hs : s.slot? key with
  | some i =>
    have hkey := (h.slot_iff key i).1 hs
    rw [lookup_isSome_iff_mem.2 (List.mem_of_getElem? hkey),
      Table.insertInto_eq_set h.distinct hkey]
    exact ⟨_, rfl, rfl, h.set_row hs hr⟩
  | none =>
    have hk := h.slot?_eq_none.1 hs
    rw [lookup_eq_none_iff_notMem.2 hk, Table.insertInto_of_notMem hk]
    exact ⟨_, rfl, rfl, h.push_row hk hr⟩

/-! ### Removing -/

/-- The index after a key has been taken out of it and the last key has moved to its slot. -/
theorem getElem?_moved {slots : Std.HashMap String Nat} {key last k : String} {i n j : Nat}
    (h : key = last ↔ i = n) :
    (if i = n then slots.erase key else (slots.erase key).insert last i)[k]? = some j ↔
      k ≠ key ∧ (k = last ∧ j = i ∨ k ≠ last ∧ slots[k]? = some j) := by
  split
  · rw [Std.HashMap.getElem?_erase]
    grind
  · rw [Std.HashMap.getElem?_insert, Std.HashMap.getElem?_erase]
    grind

/-- Filling the hole that a key leaves, once it is out of the index. -/
theorem fillHole (h : s.Holds rows) {key : String} {i : Nat} (hi : s.slot? key = some i) :
    (Store.fillHole { s with slots := s.slots.erase key } i).Holds (moveLast rows i) := by
  have hkey := (h.slot_iff key i).1 hi
  have hlt : i < rows.length := by simpa using (List.getElem?_eq_some_iff.1 hkey).1
  obtain ⟨init, last, rfl⟩ : ∃ init last, rows = init ++ [last] :=
    (List.eq_nil_or_concat' rows).resolve_left (by rintro rfl; simp at hlt)
  have hn : s.keys.size - 1 = init.length := by
    have := h.size
    unfold Store.size at this
    simp [this]
  have hrow : (init ++ [last])[init.length]? = some last := by simp
  have hlastKey : s.key init.length = last.1 := h.key hrow
  have hmove : ∀ {β : Type} (f : String × List UInt32 → β),
      (((init ++ [last]).map f).set i (f last)).dropLast = (moveLast (init ++ [last]) i).map f := by
    intro β f
    rw [map_moveLast, moveLast, List.map_append, List.map_singleton, List.getLast?_concat]
  have hdrop : ((init ++ [last]).set i last).take init.length = moveLast (init ++ [last]) i := by
    simp only [moveLast, List.getLast?_concat, List.dropLast_eq_take]
    simp
  have hwidth : ∀ row ∈ (init ++ [last]).set i last, row.2.length = s.width := fun row hm =>
    (List.mem_or_eq_of_mem_set hm).elim (h.width row) fun e => e ▸ h.width last (by simp)
  simp only [Store.fillHole, hn]
  refine ⟨?_, ?_, ?_, ?_, ?_, ?_⟩
  · rw [Array.toList_pop, Array.toList_setIfInBounds, h.keys, ← hmove]
    exact congrArg (fun k => List.dropLast (List.set _ i k)) hlastKey
  · rw [Array.toList_shrink, ← hdrop, ← take_flatMap_uniform hwidth]
    have := toList_overwrite_flatMap (x := last) h.components h.width hlt (h.width last (by simp))
    rw [← h.vector hrow] at this
    exact congrArg (List.take _) this
  · rw [Array.toList_pop, Array.toList_setIfInBounds, h.norms, ← hmove]
    exact congrArg (fun k => List.dropLast (List.set _ i k)) (h.norm hrow)
  · rw [← hdrop]
    exact fun row hm => hwidth row (List.mem_of_mem_take hm)
  · exact ((h.distinct.sublist (List.eraseIdx_sublist _ i)).perm (moveLast_perm_eraseIdx hlt).symm)
  · intro k j
    have hnodup : (init.map (·.1) ++ [last.1]).Nodup := by
      simpa [DistinctKeys] using h.distinct
    have hkey' : (init.map (·.1) ++ [last.1])[i]? = some key := by
      rwa [List.map_append, List.map_singleton] at hkey
    have hslot : s.slots[k]? = some j ↔ (init.map (·.1) ++ [last.1])[j]? = some k := by
      have := h.slot_iff k j
      rwa [List.map_append, List.map_singleton] at this
    rw [map_moveLast, List.map_append, List.map_singleton, getElem?_moveLast hnodup hkey', ← hslot]
    -- the moved key is the removed one just when the hole is the last slot
    have hlast : key = last.1 ↔ i = init.length := by
      rw [← Option.some_inj, ← hkey',
        show some last.1 = (init.map (·.1) ++ [last.1])[init.length]? by simp,
        List.getElem?_inj (by simpa using hlt) hnodup]
    exact (congrArg (fun k' => (if i = init.length then s.slots.erase key
      else (s.slots.erase key).insert k' i)[k]? = some j) hlastKey).to_iff.trans
        (getElem?_moved hlast)

theorem remove (h : s.Holds rows) (key : String) :
    (s.remove key).1 = s.contains key ∧ (s.remove key).2.dimension = s.dimension ∧
      (s.remove key).2.Holds (removeRow key rows) := by
  rw [Store.remove, h.contains]
  cases hs : s.slot? key with
  | none =>
    have hk := h.slot?_eq_none.1 hs
    rw [lookup_eq_none_iff_notMem.2 hk, removeRow_of_notMem hk]
    exact ⟨rfl, rfl, h⟩
  | some i =>
    have hkey := (h.slot_iff key i).1 hs
    rw [lookup_isSome_iff_mem.2 (List.mem_of_getElem? hkey), removeRow_eq_moveLast h.distinct hkey]
    exact ⟨rfl, rfl, h.fillHole hs⟩

end Holds

end Store

end Nearest
