import Mathlib.Data.List.Sort
import Nearest.Proofs.Rank
import Nearest.Selection

/-!
# Selections keep the best hits

`Hit.best k hs` are the `k` best of some hits, the best first. `Selection.Keeps s hs` says that a
selection which has been offered `hs` holds them. Every operation on selections keeps this up:

* `Keeps.push`, `Keeps.pushAll`: the order in which hits are offered does not matter;
* `Keeps.merge`: what a selection of the same or a greater capacity has dropped is not missed.
-/

namespace Nearest

/-! ## The best of some hits -/

namespace Hit

/-- Hits by rank, the best first. -/
def ranked (hs : List Hit) : List Hit :=
  hs.insertionSort (· ≥ ·)

/-- The `k` best hits, the best first. -/
def best (k : Nat) (hs : List Hit) : List Hit :=
  (ranked hs).take k

theorem ranked_perm (hs : List Hit) : (ranked hs).Perm hs :=
  List.perm_insertionSort _ hs

theorem pairwise_ranked (hs : List Hit) : (ranked hs).Pairwise (· ≥ ·) :=
  List.pairwise_insertionSort _ hs

theorem length_ranked (hs : List Hit) : (ranked hs).length = hs.length :=
  (ranked_perm hs).length_eq

theorem length_best (k : Nat) (hs : List Hit) : (best k hs).length = min k hs.length := by
  rw [best, List.length_take, length_ranked]

/-- There is one way to rank hits. -/
theorem eq_ranked {l hs : List Hit} (hl : l.Pairwise (· ≥ ·)) (hp : l.Perm hs) : l = ranked hs :=
  (hp.trans (ranked_perm hs).symm).eq_of_pairwise' hl (pairwise_ranked hs)

theorem best_perm {hs hs' : List Hit} (hp : hs.Perm hs') (k : Nat) : best k hs = best k hs' := by
  rw [best, best, eq_ranked (pairwise_ranked hs) ((ranked_perm hs).trans hp)]

/-- Where the end of a list is cut off after an insertion, it can be cut off before. -/
theorem take_orderedInsert (h : Hit) (l : List Hit) (k : Nat) :
    (l.orderedInsert (· ≥ ·) h).take k = ((l.take k).orderedInsert (· ≥ ·) h).take k := by
  induction l generalizing k with
  | nil => simp
  | cons x l ih =>
    cases k with
    | zero => rfl
    | succ k =>
      rw [List.take_succ_cons, List.orderedInsert_cons, List.orderedInsert_cons]
      split
      · cases k <;> simp [List.take_take]
      · rw [List.take_succ_cons, List.take_succ_cons, ih]

theorem best_cons (k : Nat) (h : Hit) (hs : List Hit) :
    best k (h :: hs) = ((best k hs).orderedInsert (· ≥ ·) h).take k :=
  take_orderedInsert h (ranked hs) k

/-- A list with the same best hits can stand for another one. -/
theorem best_append_congr {k : Nat} {hs hs' : List Hit} (h : best k hs = best k hs')
    (l : List Hit) : best k (l ++ hs) = best k (l ++ hs') := by
  induction l with
  | nil => exact h
  | cons x l ih => rw [List.cons_append, List.cons_append, best_cons, best_cons, ih]

theorem best_append {k : Nat} {hs hs' l l' : List Hit} (h : best k hs = best k hs')
    (hl : best k l = best k l') : best k (hs ++ l) = best k (hs' ++ l') :=
  calc best k (hs ++ l)
      = best k (hs ++ l') := best_append_congr hl hs
    _ = best k (l' ++ hs) := best_perm List.perm_append_comm k
    _ = best k (l' ++ hs') := best_append_congr h l'
    _ = best k (hs' ++ l') := best_perm List.perm_append_comm k

theorem best_flatMap_congr {α : Type} {k : Nat} {f g : α → List Hit} {l : List α}
    (h : ∀ x ∈ l, best k (f x) = best k (g x)) : best k (l.flatMap f) = best k (l.flatMap g) := by
  induction l with
  | nil => rfl
  | cons x l ih => exact best_append (h x (by simp)) (ih fun y hy => h y (by simp [hy]))

/-- The best `k` are among the best `k'`. -/
theorem best_best {k k' : Nat} (hk : k ≤ k') (hs : List Hit) : best k (best k' hs) = best k hs := by
  have hsorted : (best k' hs).Pairwise (· ≥ ·) :=
    (pairwise_ranked hs).sublist (List.take_sublist _ _)
  rw [best, ← eq_ranked hsorted (List.Perm.refl _), best, List.take_take, Nat.min_eq_left hk, best]

end Hit

/-! ## Selections -/

namespace Selection

open Hit

/-- A selection holds the best of the hits that it has been offered. -/
def Keeps (s : Selection) (hs : List Hit) : Prop :=
  s.sorted = best s.capacity hs

theorem insertRanked_eq_orderedInsert (h : Hit) (l : List Hit) :
    insertRanked h l = l.orderedInsert (· ≤ ·) h := by
  induction l with
  | nil => rfl
  | cons x l ih => rw [insertRanked, List.orderedInsert_cons, ih]

theorem reverse_insertRanked {l : List Hit} (hl : l.Pairwise (· ≤ ·)) (h : Hit) :
    (insertRanked h l).reverse = l.reverse.orderedInsert (· ≥ ·) h := by
  rw [insertRanked_eq_orderedInsert]
  refine List.Perm.eq_of_pairwise' (r := (· ≥ ·)) ?_ ?_ ?_
  · exact List.pairwise_reverse.2 (hl.orderedInsert h l)
  · exact (List.pairwise_reverse.2 hl).orderedInsert h _
  · have hleft := (List.reverse_perm _).trans (List.perm_orderedInsert (· ≤ ·) h l)
    have hright := List.perm_orderedInsert (· ≥ ·) h l.reverse
    exact hleft.trans (((List.reverse_perm l).symm.cons h).trans hright.symm)

theorem pushAll_append (s : Selection) (l l' : List Hit) :
    s.pushAll (l ++ l') = (s.pushAll l).pushAll l' :=
  List.foldl_append

theorem capacity_push (s : Selection) (h : Hit) : (s.push h).capacity = s.capacity := by
  unfold push
  split
  · rfl
  split
  · rfl
  split <;> rfl

/-- Offering a hit inserts it and cuts off what is too much. -/
theorem sorted_push {s : Selection} (hsorted : s.held.Pairwise (· ≤ ·))
    (hlength : s.held.length ≤ s.capacity) (h : Hit) :
    (s.push h).sorted = (s.sorted.orderedInsert (· ≥ ·) h).take s.capacity := by
  have hinsert (l : List Hit) : (insertRanked h l).length = l.length + 1 := by
    rw [insertRanked_eq_orderedInsert, List.orderedInsert_length]
  rw [sorted, sorted, ← reverse_insertRanked hsorted, push]
  split
  · rename_i hroom
    rw [List.take_of_length_le (by rw [List.length_reverse, hinsert]; exact hroom)]
  · rename_i hfull
    have hk : s.held.length = s.capacity := by omega
    cases hheld : s.held with
    | nil =>
      rw [hheld] at hk
      simp [hheld, ← hk]
    | cons worst rest =>
      rw [hheld, List.length_cons] at hk
      simp only
      by_cases hworst : worst < h
      · rw [if_pos hworst, insertRanked, if_neg (not_le.2 hworst), List.reverse_cons,
          List.take_left' (by rw [List.length_reverse, hinsert]; exact hk)]
      · rw [if_neg hworst, insertRanked, if_pos (not_lt.1 hworst), List.reverse_cons,
          List.take_left' (by simpa using hk), hheld]

namespace Keeps

variable {s t : Selection} {hs hs' : List Hit}

theorem empty (k : Nat) : (Selection.empty k).Keeps [] := by
  simp [Keeps, Selection.empty, sorted, best, ranked]

theorem congr (h : s.Keeps hs) (hp : best s.capacity hs = best s.capacity hs') : s.Keeps hs' :=
  Eq.trans h hp

theorem held_eq (h : s.Keeps hs) : s.held = (best s.capacity hs).reverse :=
  List.reverse_eq_iff.1 h

theorem size_eq (h : s.Keeps hs) : s.size = min s.capacity hs.length := by
  rw [size, h.held_eq, List.length_reverse, length_best]

theorem push (h : s.Keeps hs) (x : Hit) : (s.push x).Keeps (x :: hs) := by
  have hsorted : s.held.Pairwise (· ≤ ·) := by
    rw [h.held_eq, List.pairwise_reverse]
    exact (pairwise_ranked hs).sublist (List.take_sublist _ _)
  have hlength : s.held.length ≤ s.capacity := by
    have hsize := h.size_eq
    rw [size] at hsize
    omega
  rw [Keeps, capacity_push, sorted_push hsorted hlength, h, best_cons]

theorem pushAll (h : s.Keeps hs) (l : List Hit) :
    (s.pushAll l).Keeps (l ++ hs) ∧ (s.pushAll l).capacity = s.capacity := by
  induction l generalizing s hs with
  | nil => exact ⟨h, rfl⟩
  | cons x l ih =>
    obtain ⟨hkeeps, hcapacity⟩ := ih (h.push x)
    exact ⟨hkeeps.congr (best_perm List.perm_middle _), hcapacity.trans (capacity_push s x)⟩

theorem pushAll_empty (k : Nat) (hs : List Hit) :
    ((Selection.empty k).pushAll hs).Keeps hs ∧ ((Selection.empty k).pushAll hs).capacity = k := by
  have h := (empty k).pushAll hs
  rwa [List.append_nil] at h

/-- Merging in a selection is offering what it holds. -/
theorem merge_sorted (h : s.Keeps hs) (t : Selection) :
    (s.merge t).Keeps (hs ++ t.sorted) ∧ (s.merge t).capacity = s.capacity := by
  obtain ⟨hkeeps, hcapacity⟩ := h.pushAll t.held
  refine ⟨hkeeps.congr (best_perm ?_ _), hcapacity⟩
  exact List.perm_append_comm.trans ((List.reverse_perm t.held).symm.append_left hs)

/-- Merging in a selection that keeps as many hits or more is offering all that it was offered. -/
theorem merge (h : s.Keeps hs) (ht : t.Keeps hs') (hk : s.capacity ≤ t.capacity) :
    (s.merge t).Keeps (hs ++ hs') ∧ (s.merge t).capacity = s.capacity := by
  obtain ⟨hkeeps, hcapacity⟩ := h.merge_sorted t
  refine ⟨hkeeps.congr (best_append_congr ?_ hs), hcapacity⟩
  rw [hcapacity, ht, best_best hk]

end Keeps

end Selection

end Nearest
