import Nearest.Proofs.Selection

/-!
# What a selection comes to

A selection is determined by its capacity and by the best of the hits that have come to it. In which
order they have come, and whether one by one or by merging other selections, makes no difference.

* `Selection.Keeps.eq_of_best_eq`: there is one selection that keeps the best of some hits.
* `Selection.pushAll_keeps_best`: what is read off a selection after any hits have been offered to
  it, and what the next one does to it.
* `Selection.Built` are the selections that come of offering hits and of merging, where the hits of
  the selection that is merged in may be drawn in any order.
* `Selection.Built.merge_best`: merging selects the best of what two selections hold, and on
  selections of one capacity it is a commutative monoid.
-/

namespace Nearest

namespace Selection

open Hit

variable {s t u : Selection} {hs hs' : List Hit}

/-! ## What is read off a selection -/

namespace Keeps

/-- There is one selection that keeps the best of some hits. -/
theorem eq_of_best_eq (h : s.Keeps hs) (ht : t.Keeps hs') (hk : s.capacity = t.capacity)
    (hbest : best s.capacity hs = best s.capacity hs') : s = t := by
  have hheld : s.held = t.held := by rw [h.held_eq, ht.held_eq, ← hk, hbest]
  cases s
  cases t
  simp_all

/-- The threshold is the last of the hits that are kept, once there are enough of them. -/
theorem threshold?_eq (h : s.Keeps hs) :
    s.threshold? = if s.capacity = 0 then none else (ranked hs)[s.capacity - 1]? := by
  have hsize := h.size_eq
  rw [size] at hsize
  unfold threshold?
  split
  · -- there is room left, so fewer hits have been offered than can be kept
    rename_i hroom
    rw [if_neg (by omega), List.getElem?_eq_none (by rw [length_ranked]; omega)]
  · rename_i hfull
    split
    · rename_i hzero
      rw [List.eq_nil_of_length_eq_zero (by omega : s.held.length = 0)]
      rfl
    · rename_i hpos
      rw [h.held_eq, List.head?_reverse, List.getLast?_eq_getElem?, length_best, best,
        List.getElem?_take_of_lt (by omega)]
      congr 1
      omega

theorem threshold?_eq_none_iff (h : s.Keeps hs) :
    s.threshold? = none ↔ s.capacity = 0 ∨ hs.length < s.capacity := by
  rw [h.threshold?_eq]
  split
  · simp [*]
  · rw [List.getElem?_eq_none_iff, length_ranked]
    omega

/-- A selection keeps the best of what it holds. -/
theorem self (h : s.Keeps hs) : s.Keeps s.sorted := by
  rw [Keeps, h, best_best (Nat.le_refl _)]

end Keeps

/-! ## The next hit -/

/-- Once there is a threshold, it is the first of the hits that are held, and there is no room. -/
theorem exists_of_threshold? {worst : Hit} (h : s.threshold? = some worst) :
    ¬s.held.length < s.capacity ∧ ∃ rest, s.held = worst :: rest := by
  unfold threshold? at h
  split at h
  · cases h
  · rename_i hfull
    exact ⟨hfull, List.head?_eq_some_iff.1 h⟩

theorem push_of_not_lt {worst x : Hit} (h : s.threshold? = some worst) (hx : ¬worst < x) :
    s.push x = s := by
  obtain ⟨hfull, rest, hheld⟩ := exists_of_threshold? h
  rw [push, if_neg hfull, hheld]
  exact if_neg hx

theorem sorted_push_of_lt {worst x : Hit} (h : s.threshold? = some worst) (hx : worst < x) :
    ∃ rest, s.sorted = rest ++ [worst] ∧ (s.push x).sorted.Perm (x :: rest) := by
  obtain ⟨hfull, rest, hheld⟩ := exists_of_threshold? h
  refine ⟨rest.reverse, ?_, ?_⟩
  · rw [sorted, hheld, List.reverse_cons]
  · have hpush : s.push x = { s with held := insertRanked x rest } := by
      rw [push, if_neg hfull, hheld]
      exact if_pos hx
    have hinsert : (insertRanked x rest).Perm (x :: rest) := by
      rw [insertRanked_eq_orderedInsert]
      exact List.perm_orderedInsert _ x rest
    rw [hpush, sorted]
    exact (List.reverse_perm _).trans (hinsert.trans ((List.reverse_perm rest).symm.cons x))

/-- **A selection keeps exactly the best** of the hits that have been offered to it, in whatever
order. If these are ranked, the best first, it holds as many from the front as it can keep, and its
threshold is the last of them once there are so many. From then on, a hit that is not above the
threshold changes nothing, and one that is takes the place of the threshold. -/
theorem pushAll_keeps_best (k : Nat) (hs : List Hit) :
    let s := (Selection.empty k).pushAll hs
    (∃ ranked : List Hit, ranked.Perm hs ∧ ranked.Pairwise (· ≥ ·) ∧ s.sorted = ranked.take k ∧
      s.threshold? = if k = 0 then none else ranked[k - 1]?) ∧
    (∀ hs', hs'.Perm hs → (Selection.empty k).pushAll hs' = s) ∧
    s.size = min k hs.length ∧
    (s.threshold? = none ↔ k = 0 ∨ hs.length < k) ∧
    ∀ worst, s.threshold? = some worst → ∀ x,
      (¬worst < x → s.push x = s) ∧
      (worst < x → ∃ rest, s.sorted = rest ++ [worst] ∧ (s.push x).sorted.Perm (x :: rest)) := by
  intro s
  obtain ⟨hkeeps, hk⟩ := Keeps.pushAll_empty k hs
  refine ⟨⟨ranked hs, ranked_perm hs, pairwise_ranked hs, ?_, ?_⟩, ?_, ?_, ?_, ?_⟩
  · exact hkeeps.trans (by rw [hk, best])
  · rw [← hk]
    exact hkeeps.threshold?_eq
  · intro hs' hperm
    obtain ⟨hkeeps', hk'⟩ := Keeps.pushAll_empty k hs'
    exact hkeeps'.eq_of_best_eq hkeeps (hk'.trans hk.symm) (best_perm hperm _)
  · rw [hkeeps.size_eq, hk]
  · rw [hkeeps.threshold?_eq_none_iff, hk]
  · intro worst hworst x
    exact ⟨push_of_not_lt hworst, sorted_push_of_lt hworst⟩

/-- Of three hits with one score the one with the last key is the third, and it gives way to a
better one. -/
theorem pushAll_keeps_best_ties :
    let s := (Selection.empty 2).pushAll [⟨"c", ⟨7⟩⟩, ⟨"b", ⟨7⟩⟩, ⟨"a", ⟨7⟩⟩]
    s.sorted = [⟨"a", ⟨7⟩⟩, ⟨"b", ⟨7⟩⟩] ∧ s.threshold? = some ⟨"b", ⟨7⟩⟩ ∧
      s.push ⟨"b", ⟨7⟩⟩ = s ∧ (s.push ⟨"z", ⟨8⟩⟩).sorted.Perm [⟨"z", ⟨8⟩⟩, ⟨"a", ⟨7⟩⟩] := by
  intro s
  obtain ⟨-, -, -, -, hnext⟩ := pushAll_keeps_best 2 [⟨"c", ⟨7⟩⟩, ⟨"b", ⟨7⟩⟩, ⟨"a", ⟨7⟩⟩]
  have hsorted : s.sorted = [⟨"a", ⟨7⟩⟩, ⟨"b", ⟨7⟩⟩] := by decide +kernel
  have hworst : s.threshold? = some ⟨"b", ⟨7⟩⟩ := by decide +kernel
  refine ⟨hsorted, hworst, (hnext _ hworst _).1 (by decide +kernel), ?_⟩
  obtain ⟨rest, hrest, hperm⟩ := (hnext _ hworst ⟨"z", ⟨8⟩⟩).2 (by decide +kernel)
  have hsplit : rest ++ [⟨"b", ⟨7⟩⟩] = [⟨"a", ⟨7⟩⟩] ++ [⟨"b", ⟨7⟩⟩] := hrest.symm.trans hsorted
  rw [List.append_cancel_right hsplit] at hperm
  exact hperm

/-! ## Selections that are merged -/

/-- The selections that come of offering hits and of merging. What the selection that is merged in
holds may be drawn from it in any order. -/
inductive Built : Selection → Prop
  | empty (k : Nat) : Built (Selection.empty k)
  | push {s : Selection} (h : Built s) (x : Hit) : Built (s.push x)
  | merge {s t : Selection} (h : Built s) (ht : Built t) {drawn : List Hit}
      (hdrawn : drawn.Perm t.held) : Built (s.pushAll drawn)

theorem Built.pushAll (h : s.Built) (hs : List Hit) : (s.pushAll hs).Built := by
  induction hs generalizing s with
  | nil => exact h
  | cons x hs ih => exact ih (h.push x)

theorem Built.keeps (h : s.Built) : s.Keeps s.sorted := by
  induction h with
  | empty k => exact (Keeps.empty k).self
  | push _ x ih => exact (ih.push x).self
  | merge _ _ _ ih _ => exact (ih.pushAll _).1.self

theorem pushAll_perm (h : s.Keeps hs) {l l' : List Hit} (hp : l.Perm l') :
    s.pushAll l = s.pushAll l' := by
  obtain ⟨hl, hk⟩ := h.pushAll l
  obtain ⟨hl', hk'⟩ := h.pushAll l'
  exact hl.eq_of_best_eq hl' (hk.trans hk'.symm) (best_perm (hp.append_right hs) _)

theorem merge_comm_of_keeps (h : s.Keeps s.sorted) (ht : t.Keeps t.sorted)
    (hk : s.capacity = t.capacity) : s.merge t = t.merge s := by
  obtain ⟨hst, hst'⟩ := h.merge_sorted t
  obtain ⟨hts, hts'⟩ := ht.merge_sorted s
  refine hst.eq_of_best_eq hts ?_ (best_perm List.perm_append_comm _)
  rw [hst', hts', hk]

theorem merge_assoc_of_keeps (h : s.Keeps s.sorted) (ht : t.Keeps t.sorted)
    (hu : u.Keeps u.sorted) (hk : s.capacity = t.capacity) (hku : t.capacity = u.capacity) :
    (s.merge t).merge u = s.merge (t.merge u) := by
  obtain ⟨hst, hst'⟩ := h.merge ht hk.le
  obtain ⟨htu, htu'⟩ := ht.merge hu hku.le
  obtain ⟨hleft, hleft'⟩ := hst.merge hu (by rw [hst', hk, hku])
  obtain ⟨hright, hright'⟩ := h.merge htu (by rw [htu', hk])
  refine hleft.eq_of_best_eq hright ?_ (by rw [List.append_assoc])
  rw [hleft', hst', hright']

/-- **Merging selects the best of what two selections hold**, in whatever order the hits of the
second are drawn. If the second keeps as many hits or more, these are the best of all the hits that
the two have been offered. On selections of one capacity merging is commutative and associative, and
a selection that has been offered nothing changes nothing. -/
theorem Built.merge_best (h : s.Built) (ht : t.Built) :
    (s.merge t).sorted = best s.capacity (s.sorted ++ t.sorted) ∧
    (s.merge t).capacity = s.capacity ∧
    (∀ drawn, drawn.Perm t.held → s.pushAll drawn = s.merge t) ∧
    (∀ hs hs', s = (Selection.empty s.capacity).pushAll hs →
      t = (Selection.empty t.capacity).pushAll hs' → s.capacity ≤ t.capacity →
        (s.merge t).sorted = best s.capacity (hs ++ hs')) ∧
    (s.capacity = t.capacity →
      s.merge t = t.merge s ∧
      s.merge (Selection.empty s.capacity) = s ∧ (Selection.empty s.capacity).merge s = s ∧
      ∀ u, u.Built → t.capacity = u.capacity →
        (s.merge t).merge u = s.merge (t.merge u)) := by
  obtain ⟨hkeeps, hk⟩ := h.keeps.merge_sorted t
  refine ⟨?_, hk, ?_, ?_, ?_⟩
  · rw [← hk]
    exact hkeeps
  · intro drawn hdrawn
    exact pushAll_perm h.keeps hdrawn
  · intro hs hs' hhs hhs' hle
    have hs₀ := (Keeps.pushAll_empty s.capacity hs).1
    have ht₀ := (Keeps.pushAll_empty t.capacity hs').1
    rw [← hhs] at hs₀
    rw [← hhs'] at ht₀
    obtain ⟨hall, hcapacity⟩ := hs₀.merge ht₀ hle
    rw [← hcapacity]
    exact hall
  · intro hst
    have hempty := (Keeps.empty s.capacity).self
    refine ⟨merge_comm_of_keeps h.keeps ht.keeps hst, rfl, ?_, fun u hu htu => ?_⟩
    · exact merge_comm_of_keeps hempty h.keeps rfl
    · exact merge_assoc_of_keeps h.keeps ht.keeps hu.keeps hst htu

/-- A selection of one hit has dropped another one, which is missed by a selection of two. -/
theorem merge_best_dropped :
    let s := (Selection.empty 2).pushAll [⟨"a", ⟨1⟩⟩]
    let t := (Selection.empty 1).pushAll [⟨"b", ⟨3⟩⟩, ⟨"c", ⟨2⟩⟩]
    s.Built ∧ t.Built ∧ (s.merge t).sorted = [⟨"b", ⟨3⟩⟩, ⟨"a", ⟨1⟩⟩] := by
  intro s t
  have hs : s.Built := (Built.empty 2).pushAll _
  have ht : t.Built := (Built.empty 1).pushAll _
  refine ⟨hs, ht, (hs.merge_best ht).1.trans ?_⟩
  decide +kernel

end Selection

end Nearest
