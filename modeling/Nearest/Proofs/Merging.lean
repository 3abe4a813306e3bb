import Nearest.Proofs.Exactness

/-!
# Searches over several shards

A search over several shards asks each of them for its own best and merges the answers.

* `Response.Merged k answers r`: `r` comes from these answers by merging them in groups, the groups
  in groups, and so on.
* `Merged.best_results`: whatever the groups are, the best `k` are those of all the answers.
* `Shard.merge_eq_search`: the merged answers of shards with different keys are the answer of one
  shard that has all the vectors.
-/

namespace Nearest

open Hit

/-! ## Merging -/

namespace Response

theorem results_merge (k : Nat) (responses : List Response) :
    (merge k responses).results = best k (responses.flatMap results) := by
  obtain ⟨hkeeps, hcapacity⟩ := Selection.Keeps.pushAll_empty k (responses.flatMap results)
  rw [Selection.Keeps, hcapacity] at hkeeps
  exact hkeeps

/-- A response that comes from answers by merging in any groups, given with the answers in the order
in which the groups have them. -/
inductive Merged (k : Nat) : List Response → Response → Prop
  | answer (r : Response) : Merged k [r] r
  | merge {groups : List (List Response × Response)} (h : ∀ g ∈ groups, Merged k g.1 g.2) :
      Merged k (groups.flatMap (·.1)) (Response.merge k (groups.map (·.2)))

variable {k : Nat}

theorem Merged.best_results {answers : List Response} {r : Response} (h : Merged k answers r) :
    best k r.results = best k (answers.flatMap results) := by
  induction h with
  | answer r => rw [List.flatMap_singleton]
  | @merge groups _ ih =>
    rw [results_merge, best_best (Nat.le_refl k), List.flatMap_map, List.flatMap_assoc]
    exact best_flatMap_congr ih

theorem Merged.errors_eq {answers : List Response} {r : Response} (h : Merged k answers r) :
    r.errors = answers.flatMap errors := by
  induction h with
  | answer r => rw [List.flatMap_singleton]
  | @merge groups _ ih =>
    rw [List.flatMap_assoc, ← List.flatMap_congr ih]
    exact List.flatMap_map _ _ _

/-- The answers that groups have together, merged as they are grouped. -/
theorem merge_groups {groups : List (List Response × Response)}
    (h : ∀ g ∈ groups, Merged k g.1 g.2) :
    Response.merge k (groups.map (·.2)) =
      { results := best k ((groups.flatMap (·.1)).flatMap results)
        errors := (groups.flatMap (·.1)).flatMap errors } := by
  have hmerged := Merged.merge h
  have hresults := hmerged.best_results
  rw [results_merge, best_best (Nat.le_refl k), ← results_merge] at hresults
  rw [← hresults, ← hmerged.errors_eq]

end Response

/-! ## Several shards -/

/-- A shard that takes part in a search, with the time at which it answers and the number of hits
that it is asked for. -/
structure Part where
  shard : Shard
  now : Nat
  limit : Int

namespace Part

/-- What a part answers. -/
def search (p : Part) (filter : Option String) (query : Bytes) : Except Fault Response :=
  (p.shard.search p.now p.limit filter query).1

/-- The live vectors of a part. -/
def vector? (p : Part) (key : String) : Option Record :=
  p.shard.vector? p.now key

end Part

namespace Shard

variable {whole : Shard} {now : Nat} {parts : List Part}

/-- What the parts have together are the candidates of a shard that has all their vectors. -/
theorem candidates_flatMap (hparts : ∀ p ∈ parts, p.shard.Sound)
    (hdisjoint : parts.Pairwise fun p p' => ∀ key, p.vector? key = none ∨ p'.vector? key = none)
    (hunion : ∀ key r, whole.vector? now key = some r ↔ ∃ p ∈ parts, p.vector? key = some r)
    (f : KeyFilter) (query : List UInt32) :
    whole.Candidates now f query
      (parts.flatMap fun p => p.shard.liveHits p.now f query) where
  mem_iff x := by
    simp only [List.mem_flatMap, hunion]
    constructor
    · rintro ⟨p, hp, hx⟩
      obtain ⟨r, hr, hrest⟩ :=
        (((hparts p hp).candidates_liveHits p.now f query).mem_iff x).1 hx
      exact ⟨r, ⟨p, hp, hr⟩, hrest⟩
    · rintro ⟨r, ⟨p, hp, hr⟩, hrest⟩
      exact ⟨p, hp, (((hparts p hp).candidates_liveHits p.now f query).mem_iff x).2 ⟨r, hr, hrest⟩⟩
  nodup := by
    rw [List.map_flatMap, List.nodup_flatMap]
    refine ⟨fun p hp => ((hparts p hp).candidates_liveHits p.now f query).nodup, ?_⟩
    refine hdisjoint.imp_of_mem fun {p p'} hp hp' hdisj key hkey hkey' => ?_
    obtain ⟨x, hx, rfl⟩ := List.mem_map.1 hkey
    obtain ⟨x', hx', he⟩ := List.mem_map.1 hkey'
    obtain ⟨r, hr, -⟩ := (((hparts p hp).candidates_liveHits p.now f query).mem_iff x).1 hx
    obtain ⟨r', hr', -⟩ := (((hparts p' hp').candidates_liveHits p'.now f query).mem_iff x').1 hx'
    rw [he] at hr'
    rcases hdisj x.key with hnone | hnone
    · exact absurd (hnone.symm.trans hr) nofun
    · exact absurd (hnone.symm.trans hr') nofun

/-- What has been cut off an answer is not missed. -/
theorem best_answers {filter : Option String} {query : Bytes} {k : Nat} {hits : Part → List Hit}
    (hsearch : ∀ p ∈ parts,
      p.search filter query = .ok { results := best p.limit.toNat (hits p) })
    (hle : ∀ p ∈ parts, k ≤ p.limit.toNat) {answers : List Response}
    (h : List.Forall₂ (fun p r => p.search filter query = .ok { r with errors := [] })
      parts answers) :
    best k (answers.flatMap (·.results)) = best k (parts.flatMap hits) := by
  induction h with
  | nil => rfl
  | @cons p r parts answers hr _ ih =>
    obtain ⟨hp, hparts⟩ := List.forall_mem_cons.1 hsearch
    obtain ⟨hk, hks⟩ := List.forall_mem_cons.1 hle
    have hresults : r.results = best p.limit.toNat (hits p) :=
      congrArg Response.results (Except.ok.inj (hr.symm.trans hp))
    rw [List.flatMap_cons, List.flatMap_cons, hresults]
    exact best_append (best_best hk (hits p)) (ih hparts hks)

/-- **A search over several shards is the search of one.** Let each of some shards with different
live keys answer with at least as many hits as are wanted in the end. However the answers are
merged, in any order and in any groups, the results are those of a shard with all their live
vectors, and the errors are those of the answers in the order in which they are merged. -/
theorem merge_eq_search {k : Nat} (hk : 0 < k) (hwhole : whole.Reached)
    (hparts : ∀ p ∈ parts, p.shard.Reached ∧ p.shard.dimension = whole.dimension ∧ k ≤ p.limit)
    (hdisjoint : parts.Pairwise fun p p' => ∀ key, p.vector? key = none ∨ p'.vector? key = none)
    (hunion : ∀ key r, whole.vector? now key = some r ↔ ∃ p ∈ parts, p.vector? key = some r)
    {filter : Option String} {f : KeyFilter}
    (hf : filter.elim (.ok .all) KeyFilter.parse = .ok f) {query : Bytes} {q : Record}
    (hq : Record.ofBytes query whole.dimension = .ok q) :
    (∀ p ∈ parts, ∃ results, p.search filter query = .ok { results, errors := [] }) ∧
    ∃ results, (whole.search now k filter query).1 = .ok { results, errors := [] } ∧
      ∀ answers : List Response,
        List.Forall₂ (fun p r => p.search filter query = .ok { r with errors := [] })
          parts answers →
        (∀ responses, responses.Perm answers →
          Response.merge k responses = { results, errors := responses.flatMap (·.errors) }) ∧
        ∀ groups : List (List Response × Response), (∀ g ∈ groups, Response.Merged k g.1 g.2) →
          (groups.flatMap (·.1)).Perm answers →
          Response.merge k (groups.map (·.2)) =
            { results, errors := (groups.flatMap (·.1)).flatMap (·.errors) } := by
  have hsearch : ∀ p ∈ parts, p.search filter query =
      .ok { results := best p.limit.toNat (p.shard.liveHits p.now f q.components) } := by
    intro p hp
    obtain ⟨hreached, hdim, hle⟩ := hparts p hp
    rw [← hdim] at hq
    exact hreached.sound.search_eq p.now (by omega) hf hq
  have hall := hwhole.sound.search_eq now (k := k) (by omega) hf hq
  rw [Int.toNat_natCast, best_perm ((hwhole.sound.candidates_liveHits now f q.components).perm
    (candidates_flatMap (fun p hp => (hparts p hp).1.sound) hdisjoint hunion f q.components)
    fun _ => rfl)] at hall
  refine ⟨fun p hp => ⟨_, hsearch p hp⟩, _, hall, fun answers hanswers => ?_⟩
  have hbest := best_answers (k := k) hsearch
    (fun p hp => by have := (hparts p hp).2.2; omega) hanswers
  have hflat : ∀ responses : List Response, responses.Perm answers →
      best k (responses.flatMap (·.results)) =
        best k (parts.flatMap fun p => p.shard.liveHits p.now f q.components) :=
    fun responses hperm => (best_perm (hperm.flatMap_right _) k).trans hbest
  refine ⟨fun responses hperm => ?_, fun groups hgroups hperm => ?_⟩
  · rw [← hflat responses hperm, ← Response.results_merge]
    rfl
  · rw [Response.merge_groups hgroups, hflat _ hperm]

/-- Two shards with one vector each, the second of which is asked for more than is wanted. -/
theorem merge_eq_search_pair : ∃ whole left right : Shard,
    left.vector? 0 "a" = some ⟨[0x3f800000]⟩ ∧ right.vector? 3 "b" = some ⟨[0x40000000]⟩ ∧
      ∃ results, (whole.search 5 1 none [0, 0, 0, 0x40]).1 = .ok { results, errors := [] } ∧
        ∀ answers, List.Forall₂
          (fun (p : Part) (r : Response) =>
            p.search none [0, 0, 0, 0x40] = .ok { r with errors := [] })
          [⟨left, 0, 1⟩, ⟨right, 3, 7⟩] answers →
          Response.merge 1 answers.reverse =
            { results, errors := answers.reverse.flatMap (·.errors) } := by
  let a : Record := ⟨[0x3f800000]⟩
  let b : Record := ⟨[0x40000000]⟩
  have hcheck : Settings.check { dimension := 1 } = .ok () := rfl
  obtain ⟨left, hl, hsl, hbl⟩ := exists_reached hcheck ⟨[("a", ⟨.vector a, none⟩)]⟩ (by decide)
  obtain ⟨right, hr, hsr, hbr⟩ := exists_reached hcheck ⟨[("b", ⟨.vector b, none⟩)]⟩ (by decide)
  obtain ⟨whole, hw, hsw, hbw⟩ := exists_reached hcheck
    ⟨[("b", ⟨.vector b, none⟩), ("a", ⟨.vector a, none⟩)]⟩ (by decide)
  have hvl : ∀ t key, left.vector? t key = if key = "a" then some a else none := fun t key => by
    rw [hl.sound.vector?_eq, hbl, Table.get?, lookup_cons_ite]
    split <;> rfl
  have hvr : ∀ t key, right.vector? t key = if key = "b" then some b else none := fun t key => by
    rw [hr.sound.vector?_eq, hbr, Table.get?, lookup_cons_ite]
    split <;> rfl
  have hvw : ∀ t key, whole.vector? t key =
      if key = "b" then some b else if key = "a" then some a else none := fun t key => by
    rw [hw.sound.vector?_eq, hbw, Table.get?, lookup_cons_ite, lookup_cons_ite]
    split_ifs <;> rfl
  have hdl : left.dimension = 1 := congrArg Settings.dimension hsl
  have hdr : right.dimension = 1 := congrArg Settings.dimension hsr
  have hdw : whole.dimension = 1 := congrArg Settings.dimension hsw
  let parts : List Part := [⟨left, 0, 1⟩, ⟨right, 3, 7⟩]
  have hparts : ∀ p ∈ parts,
      p.shard.Reached ∧ p.shard.dimension = whole.dimension ∧ (1 : Nat) ≤ p.limit := by
    simp [parts, hl, hr, hdl, hdr, hdw]
  have hdisjoint : parts.Pairwise fun p p' =>
      ∀ key, p.vector? key = none ∨ p'.vector? key = none := by
    simp only [parts, List.pairwise_pair, Part.vector?, hvl, hvr]
    grind
  have hunion : ∀ key r,
      whole.vector? 5 key = some r ↔ ∃ p ∈ parts, p.vector? key = some r := by
    simp only [parts, List.mem_cons, List.not_mem_nil, or_false, exists_eq_or_imp,
      exists_eq_left, Part.vector?, hvl, hvr, hvw]
    grind
  have hfilter : (none : Option String).elim (.ok .all) KeyFilter.parse = .ok .all := rfl
  have hquery : Record.ofBytes [0, 0, 0, 0x40] whole.dimension = .ok b := by
    rw [hdw]
    rfl
  obtain ⟨-, results, hall, hmerge⟩ :=
    merge_eq_search (by decide) hw hparts hdisjoint hunion hfilter hquery
  refine ⟨whole, left, right, hvl 0 "a", hvr 3 "b", results, hall, fun answers h => ?_⟩
  exact (hmerge answers h).1 _ (List.reverse_perm answers)

end Shard

end Nearest
