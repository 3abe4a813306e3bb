import Mathlib.Data.List.Nodup
import Nearest.Table

/-!
# Laws of tables

What looking up a key answers after each operation on a table (`Table.get?_insert`,
`Table.get?_erase`), and how the operations keep the keys distinct. The facts are stated on lists of
pairs where they are proved, because the rows of the vector store are such a list too.
-/

namespace Nearest

variable {α : Type}

/-! ## Lists of pairs with distinct keys -/

/-- The keys of a list of pairs are distinct. -/
def DistinctKeys (l : List (String × α)) : Prop :=
  (l.map (·.1)).Nodup

namespace DistinctKeys

theorem nil : DistinctKeys ([] : List (String × α)) :=
  List.nodup_nil

theorem sublist {l l' : List (String × α)} (h : DistinctKeys l) (hs : l'.Sublist l) :
    DistinctKeys l' :=
  List.Nodup.sublist (hs.map _) h

theorem filter {l : List (String × α)} (h : DistinctKeys l) (p : String × α → Bool) :
    DistinctKeys (l.filter p) :=
  h.sublist List.filter_sublist

theorem perm {l l' : List (String × α)} (h : DistinctKeys l) (hp : l.Perm l') : DistinctKeys l' :=
  (hp.map _).nodup h

/-- A row is the only one with its key. -/
theorem filter_eq_singleton {l : List (String × α)} (h : DistinctKeys l) {row : String × α}
    (hm : row ∈ l) : l.filter (fun x => row.1 == x.1) = [row] := by
  obtain ⟨l₁, l₂, rfl⟩ := List.append_of_mem hm
  obtain ⟨hrow, -⟩ := List.nodup_cons.1 ((List.perm_middle.map _).nodup h)
  have hne : ∀ x ∈ l₁ ++ l₂, ¬(row.1 == x.1) = true := fun x hx he =>
    hrow (List.mem_map.2 ⟨x, hx, (beq_iff_eq.1 he).symm⟩)
  rw [List.filter_append, List.filter_cons_of_pos (by simp),
    List.filter_eq_nil_iff.2 fun x hx => hne x (List.mem_append_left _ hx),
    List.filter_eq_nil_iff.2 fun x hx => hne x (List.mem_append_right _ hx), List.nil_append]

end DistinctKeys

theorem lookup_cons_ite (l : List (String × α)) (key k : String) (a : α) :
    ((key, a) :: l).lookup k = if k = key then some a else l.lookup k := by
  by_cases hk : k = key
  · simp [hk]
  · rw [List.lookup_cons, beq_eq_false_iff_ne.2 hk, if_neg hk]

theorem mem_of_lookup {l : List (String × α)} {key : String} {a : α}
    (h : l.lookup key = some a) : (key, a) ∈ l := by
  obtain ⟨l₁, l₂, rfl, -⟩ := List.lookup_eq_some_iff.1 h
  simp

/-- With distinct keys, a pair is in a list iff looking up its key finds it. -/
theorem mem_iff_lookup {l : List (String × α)} (h : DistinctKeys l) {key : String} {a : α} :
    (key, a) ∈ l ↔ l.lookup key = some a := by
  refine ⟨fun hm => ?_, mem_of_lookup⟩
  obtain ⟨l₁, l₂, rfl⟩ := List.append_of_mem hm
  refine List.lookup_eq_some_iff.2 ⟨l₁, l₂, rfl, fun p hp => ?_⟩
  rw [DistinctKeys, List.map_append, List.map_cons] at h
  have := List.disjoint_of_nodup_append h (List.mem_map_of_mem hp)
  grind

theorem lookup_isSome_iff_mem {l : List (String × α)} {key : String} :
    (l.lookup key).isSome ↔ key ∈ l.map (·.1) := by
  simp only [List.lookup_isSome_iff, List.mem_map, beq_iff_eq]
  grind

theorem lookup_eq_none_iff_notMem {l : List (String × α)} {key : String} :
    l.lookup key = none ↔ key ∉ l.map (·.1) := by
  rw [← lookup_isSome_iff_mem, Option.not_isSome_iff_eq_none]

/-- The order of a list with distinct keys does not matter for looking up. -/
theorem lookup_perm {l l' : List (String × α)} (h : DistinctKeys l) (hp : l.Perm l')
    (key : String) : l.lookup key = l'.lookup key :=
  Option.ext fun a => by
    rw [← mem_iff_lookup h, ← mem_iff_lookup (h.perm hp), hp.mem_iff]

/-- Leaving out pairs by their key. -/
theorem lookup_filter_key (l : List (String × α)) (p : String → Bool) (key : String) :
    (l.filter fun x => p x.1).lookup key = if p key then l.lookup key else none := by
  induction l with
  | nil => simp
  | cons x l ih =>
    obtain ⟨k, a⟩ := x
    by_cases hk : key = k
    · subst hk
      cases hp : p key <;> simp [hp, ih]
    · rw [lookup_cons_ite, if_neg hk, ← ih]
      cases hp : p k <;> simp [hp, lookup_cons_ite, hk]

theorem lookup_map_snd {β : Type} (l : List (String × α)) (f : α → β) (key : String) :
    (l.map fun x => (x.1, f x.2)).lookup key = (l.lookup key).map f := by
  induction l with
  | nil => rfl
  | cons x l ih =>
    obtain ⟨k, a⟩ := x
    simp only [List.map_cons, lookup_cons_ite, ih]
    split <;> rfl

/-! ## Putting a pair into a list -/

namespace Table

theorem lookup_insertInto (key k : String) (a : α) (l : List (String × α)) :
    (insertInto key a l).lookup k = if k = key then some a else l.lookup k := by
  induction l with
  | nil => exact lookup_cons_ite [] key k a
  | cons x l ih =>
    obtain ⟨k', b⟩ := x
    unfold insertInto
    split <;> simp only [lookup_cons_ite, ih] <;> grind

theorem map_fst_insertInto (key : String) (a : α) (l : List (String × α)) :
    (insertInto key a l).map (·.1) =
      if key ∈ l.map (·.1) then l.map (·.1) else l.map (·.1) ++ [key] := by
  induction l with
  | nil => simp [insertInto]
  | cons x l ih =>
    obtain ⟨k, b⟩ := x
    by_cases hk : k = key
    · simp [insertInto, hk]
    · simp only [insertInto, hk, if_false, List.map_cons, ih, List.mem_cons, Ne.symm hk, false_or]
      split <;> rfl

theorem distinctKeys_insertInto {l : List (String × α)} (h : DistinctKeys l) (key : String)
    (a : α) : DistinctKeys (insertInto key a l) := by
  rw [DistinctKeys, map_fst_insertInto]
  split
  · exact h
  · rename_i hk
    exact List.nodup_append.2 ⟨h, List.nodup_singleton _, by grind⟩

/-- A new key goes to the end. -/
theorem insertInto_of_notMem {key : String} {l : List (String × α)} (h : key ∉ l.map (·.1))
    (a : α) : insertInto key a l = l ++ [(key, a)] := by
  induction l with
  | nil => rfl
  | cons x l ih =>
    obtain ⟨k, b⟩ := x
    simp only [List.map_cons, List.mem_cons, not_or] at h
    simp [insertInto, Ne.symm h.1, ih h.2]

/-- A key that is there keeps its place. -/
theorem insertInto_eq_set {key : String} {l : List (String × α)} {i : Nat} (h : DistinctKeys l)
    (hi : (l.map (·.1))[i]? = some key) (a : α) : insertInto key a l = l.set i (key, a) := by
  induction l generalizing i with
  | nil => simp at hi
  | cons x l ih =>
    obtain ⟨k, b⟩ := x
    cases i with
    | zero =>
      obtain rfl : k = key := by simpa using hi
      simp [insertInto]
    | succ i =>
      have hmem : key ∈ l.map (·.1) := List.mem_of_getElem? (by simpa using hi)
      obtain ⟨hk, hl⟩ := List.nodup_cons.1 h
      have hne : k ≠ key := fun e => hk (e ▸ hmem)
      simp [insertInto, hne, ih hl (by simpa using hi)]

/-! ## Looking up -/

theorem get?_insert (t : Table α) (key k : String) (a : α) :
    (t.insert key a).get? k = if k = key then some a else t.get? k :=
  lookup_insertInto key k a t.toList

theorem get?_erase (t : Table α) (key k : String) :
    (t.erase key).get? k = if k = key then none else t.get? k := by
  have := lookup_filter_key t.toList (· != key) k
  by_cases hk : k = key <;> simpa [get?, erase, hk] using this

theorem contains_eq_isSome (t : Table α) (key : String) : t.contains key = (t.get? key).isSome := by
  rw [Bool.eq_iff_iff, get?, lookup_isSome_iff_mem]
  simp [contains]

/-! ## Distinct keys -/

/-- Each key of a table is bound once. -/
def Distinct (t : Table α) : Prop :=
  DistinctKeys t.toList

theorem distinct_empty : ({} : Table α).Distinct :=
  DistinctKeys.nil

theorem Distinct.insert {t : Table α} (h : t.Distinct) (key : String) (a : α) :
    (t.insert key a).Distinct :=
  distinctKeys_insertInto h key a

theorem Distinct.erase {t : Table α} (h : t.Distinct) (key : String) : (t.erase key).Distinct :=
  h.filter _

theorem Distinct.nodup_keysWhere {t : Table α} (h : t.Distinct) (p : α → Bool) :
    (t.keysWhere p).Nodup :=
  h.filter fun x => p x.2

theorem Distinct.mem_keysWhere {t : Table α} (h : t.Distinct) {p : α → Bool} {key : String} :
    key ∈ t.keysWhere p ↔ (t.get? key).any p := by
  simp only [keysWhere, List.mem_map, List.mem_filter, Option.any_eq_true, get?]
  constructor
  · rintro ⟨⟨k, a⟩, ⟨hm, hp⟩, rfl⟩
    exact ⟨a, (mem_iff_lookup h).1 hm, hp⟩
  · rintro ⟨a, ha, hp⟩
    exact ⟨(key, a), ⟨mem_of_lookup ha, hp⟩, rfl⟩

end Table

end Nearest
