import Nearest.Proofs.Reached
import Nearest.Proofs.Search

/-!
# Searches are exact

A search answers the best of the live vectors that the filter lets through, whichever way it takes
and however the shard has come to hold them.

* `Shard.Candidates` are these vectors as hits, with the similarities computed from the vectors,
  and `Shard.liveHits` lists them. They can be ranked in one way (`Candidates.eq_ranked`).
* `Sound.search_eq`: a search answers the best of them.
* `Reached.search_exact` spells it out for every shard that is reached.
-/

namespace Nearest.Shard

variable {s : Shard}

/-- The live vectors of a shard that a filter lets through, as hits of a query. -/
structure Candidates (s : Shard) (now : Nat) (filter : KeyFilter) (query : List UInt32)
    (hits : List Hit) : Prop where
  mem_iff : ∀ h, h ∈ hits ↔ ∃ r, s.vector? now h.key = some r ∧ filter.accepts h.key = true ∧
    h.score = Score.ofFloat (Similarity.cosine query r.components)
  nodup : (hits.map (·.key)).Nodup

/-- The candidates depend on nothing but the live vectors. -/
theorem Candidates.perm {s s' : Shard} {now now' : Nat} {filter : KeyFilter} {query : List UInt32}
    {hits hits' : List Hit} (h : s.Candidates now filter query hits)
    (h' : s'.Candidates now' filter query hits')
    (heq : ∀ key, s'.vector? now' key = s.vector? now key) : hits.Perm hits' := by
  rw [List.perm_ext_iff_of_nodup h.nodup.of_map h'.nodup.of_map]
  intro x
  rw [h.mem_iff, h'.mem_iff, heq]

/-- There is one way to put the candidates in the order of their ranks. -/
theorem Candidates.eq_ranked {now : Nat} {filter : KeyFilter} {query : List UInt32}
    {ranked hits : List Hit} (h : s.Candidates now filter query ranked)
    (h' : s.Candidates now filter query hits)
    (hsorted : ranked.Pairwise fun a b => b.score.place < a.score.place ∨
      a.score = b.score ∧ Bytes.ofText a.key < Bytes.ofText b.key) : ranked = Hit.ranked hits :=
  Hit.eq_ranked
    (hsorted.imp fun hab => le_of_lt (Hit.lt_iff.2 (hab.imp_right fun hk => ⟨hk.1.symm, hk.2⟩)))
    (h.perm h' fun _ => rfl)

/-- The candidates among vectors that are listed by their keys. -/
theorem candidates_of_lookup {rows : List (String × List UInt32)} (hrows : DistinctKeys rows)
    {now : Nat} (hvector : ∀ key, s.vector? now key = (rows.lookup key).map Record.mk)
    (filter : KeyFilter) (query : List UInt32) :
    s.Candidates now filter query (Search.hits query filter rows) := by
  refine ⟨fun x => ?_, ?_⟩
  · simp only [Search.hits, List.mem_map, List.mem_filter, hvector, Option.map_eq_some_iff]
    constructor
    · rintro ⟨⟨key, v⟩, ⟨hm, hf⟩, rfl⟩
      exact ⟨⟨v⟩, ⟨v, (mem_iff_lookup hrows).1 hm, rfl⟩, hf, rfl⟩
    · rintro ⟨r, ⟨v, hv, rfl⟩, hf, hscore⟩
      refine ⟨(x.key, v), ⟨mem_of_lookup hv, hf⟩, ?_⟩
      exact congrArg (Hit.mk x.key) hscore.symm
  · rw [Search.hits, List.map_map]
    exact hrows.filter _

/-- The live vectors of a shard that a filter lets through, in the order of their slots. -/
def liveHits (s : Shard) (now : Nat) (filter : KeyFilter) (query : List UInt32) : List Hit :=
  Search.hits query filter (s.purge now).2.store.toList

theorem Sound.candidates_liveHits (h : s.Sound) (now : Nat) (filter : KeyFilter)
    (query : List UInt32) : s.Candidates now filter query (s.liveHits now filter query) := by
  obtain ⟨rows, hrows⟩ := (h.purge now).1.columns
  rw [liveHits, hrows.toList]
  refine candidates_of_lookup hrows.distinct (fun key => ?_) filter query
  rw [h.vector?_eq_purge, hrows.get?]

/-- A search for no hits with a filter that is one is refused. -/
theorem search_of_not_pos (s : Shard) (now : Nat) {k : Int} (hk : ¬0 < k) {filter : Option String}
    {f : KeyFilter} (hf : filter.elim (.ok .all) KeyFilter.parse = .ok f) (query : Bytes) :
    (s.search now k filter query).1 = .error (.argument (.resultCount k)) := by
  rw [Shard.search, hf]
  exact if_pos (Int.not_lt.1 hk)

/-- A search for some hits with a filter that is one has only its query left to fail by. -/
theorem Sound.search_eq_map (h : s.Sound) (now : Nat) {k : Int} (hk : 0 < k)
    {filter : Option String} {f : KeyFilter}
    (hf : filter.elim (.ok .all) KeyFilter.parse = .ok f) (query : Bytes) :
    (s.search now k filter query).1 = (Record.ofBytes query s.dimension).map fun q =>
      Search.byVector s.settings (s.purge now).2.store k.toNat q.components f := by
  rw [Shard.search, hf]
  simp only
  rw [Search.byPayload, if_neg (by omega), (h.purge now).2.1, Shard.dimension]
  cases Record.ofBytes query s.settings.dimension <;> rfl

/-- A search that has no fault answers the best candidates. -/
theorem Sound.search_eq (h : s.Sound) (now : Nat) {k : Int} (hk : 0 < k) {filter : Option String}
    {f : KeyFilter} (hf : filter.elim (.ok .all) KeyFilter.parse = .ok f) {query : Bytes}
    {q : Record} (hq : Record.ofBytes query s.dimension = .ok q) :
    (s.search now k filter query).1 =
      .ok { results := Hit.best k.toNat (s.liveHits now f q.components) } := by
  obtain ⟨rows, hrows⟩ := (h.purge now).1.columns
  rw [h.search_eq_map now hk hf, hq, liveHits, hrows.toList]
  exact congrArg Except.ok (Search.byVector_eq q.components f hrows _ k.toNat)

/-- Searches depend on nothing but the dimension and the live vectors. -/
theorem Sound.search_congr {s' : Shard} (h : s.Sound) (h' : s'.Sound)
    (hdim : s'.dimension = s.dimension) {now now' : Nat}
    (heq : ∀ key, s'.vector? now' key = s.vector? now key) (k : Int) (filter : Option String)
    (query : Bytes) : (s'.search now' k filter query).1 = (s.search now k filter query).1 := by
  cases hf : filter.elim (.ok .all) KeyFilter.parse with
  | error e => rw [Shard.search, Shard.search, hf]
  | ok f =>
    by_cases hk : 0 < k
    · cases hq : Record.ofBytes query s.dimension with
      | ok q =>
        have hperm := (h.candidates_liveHits now f q.components).perm
          (h'.candidates_liveHits now' f q.components) heq
        rw [h.search_eq now hk hf hq, h'.search_eq now' hk hf (hdim ▸ hq), Hit.best_perm hperm]
      | error e =>
        rw [h.search_eq_map now hk hf, h'.search_eq_map now' hk hf, hdim, hq]
        rfl
    · rw [search_of_not_pos s now hk hf, search_of_not_pos s' now' hk hf]

/-- **Searches are exact.** The answer is the beginning of the list of all live vectors that the
filter lets through, each with the similarity computed from the vector itself, from the highest
score to the lowest and at equal scores by the bytes of the keys. So two shards with the same live
vectors answer the same. -/
theorem Reached.search_exact (h : s.Reached) (now : Nat) {k : Int} (hk : 0 < k)
    {filter : Option String} {f : KeyFilter}
    (hf : filter.elim (.ok .all) KeyFilter.parse = .ok f) {query : Bytes} {q : Record}
    (hq : Record.ofBytes query s.dimension = .ok q) :
    (∃ ranked : List Hit,
      (∀ x, x ∈ ranked ↔ ∃ r, s.vector? now x.key = some r ∧ f.accepts x.key = true ∧
        x.score = Score.ofFloat (Similarity.cosine q.components r.components)) ∧
      (ranked.map (·.key)).Nodup ∧
      ranked.Pairwise (fun a b => b.score.place < a.score.place ∨
        a.score = b.score ∧ Bytes.ofText a.key < Bytes.ofText b.key) ∧
      (s.search now k filter query).1 =
        .ok { results := ranked.take k.toNat, errors := [] }) ∧
    ∀ s' : Shard, ∀ now', s'.Reached → s'.dimension = s.dimension →
      (∀ key, s'.vector? now' key = s.vector? now key) →
        (s'.search now' k filter query).1 = (s.search now k filter query).1 := by
  have hcandidates := h.sound.candidates_liveHits now f q.components
  have hsearch := h.sound.search_eq now hk hf hq
  let hits := s.liveHits now f q.components
  refine ⟨⟨Hit.ranked hits, fun x => ?_, ?_, ?_, hsearch⟩, fun s' now' h' hdim heq => ?_⟩
  · rw [(Hit.ranked_perm hits).mem_iff]
    exact hcandidates.mem_iff x
  · exact ((Hit.ranked_perm hits).map _).nodup_iff.2 hcandidates.nodup
  · have hnodup := (Hit.ranked_perm hits).nodup_iff.2 hcandidates.nodup.of_map
    refine (Hit.pairwise_ranked hits).imp₂ (fun a b hle hne => ?_) hnodup
    rcases Hit.lt_iff.1 (lt_of_le_of_ne hle hne.symm) with hlt | ⟨hs, hk⟩
    · exact .inl hlt
    · exact .inr ⟨hs.symm, hk⟩
  · exact h.sound.search_congr h'.sound hdim heq k filter query

/-- A pattern and a single key, on a shard with an expired vector. Of the vectors that the pattern
lets through the first is parallel to the query, and the other two have the same score, 24 / 25. The
place that is left goes to the one with the smaller key. -/
theorem search_exact_tie :
    let steep : Record := ⟨[0x40400000, 0x40800000]⟩
    let flat : Record := ⟨[0x40800000, 0x40400000]⟩
    let keyspace : Keyspace := ⟨[("a3", ⟨.vector flat, none⟩), ("b", ⟨.vector steep, none⟩),
      ("a1", ⟨.vector flat, none⟩), ("a2", ⟨.vector steep, some 9⟩),
      ("a0", ⟨.vector steep, some 5⟩)]⟩
    ∃ s : Shard, s.Reached ∧ s.settings = { dimension := 2 } ∧
      (∀ key, s.binding? key = keyspace.get? key) ∧
      (s.search 7 2 (some "a*") steep.bytes).1 = .ok { results :=
        [⟨"a2", ⟨0x3ff0000000000000⟩⟩, ⟨"a1", ⟨0x3feeb851eb851eb8⟩⟩] } ∧
      (s.search 7 2 (some "a3") steep.bytes).1 = .ok { results :=
        [⟨"a3", ⟨0x3feeb851eb851eb8⟩⟩] } := by
  intro steep flat keyspace
  obtain ⟨s, hs, hset, hb⟩ := exists_reached (rfl : Settings.check { dimension := 2 } = .ok ())
    keyspace (by decide)
  let rows : List (String × List UInt32) := [("a3", flat.components), ("b", steep.components),
    ("a1", flat.components), ("a2", steep.components)]
  have hrows : DistinctKeys rows := by
    show (rows.map (·.1)).Nodup
    decide
  have hvector : ∀ key, s.vector? 7 key = (rows.lookup key).map Record.mk := by
    intro key
    rw [hs.sound.vector?_eq, hb]
    simp only [keyspace, rows, Table.get?, lookup_cons_ite]
    split_ifs <;> rfl
  have hquery : Record.ofBytes steep.bytes s.dimension = .ok steep := by
    rw [Shard.dimension, hset]
    rfl
  have hsearch : ∀ {text : String} {f : KeyFilter},
      (some text).elim (.ok .all) KeyFilter.parse = .ok f →
      (s.search 7 2 (some text) steep.bytes).1 =
        .ok { results := Hit.best 2 (Search.hits steep.components f rows) } := by
    intro text f hf
    obtain ⟨⟨ranked, hmem, hnodup, hsorted, hresult⟩, -⟩ :=
      hs.search_exact 7 (k := 2) (by decide) hf hquery
    have hcandidates : s.Candidates 7 f steep.components ranked := ⟨hmem, hnodup⟩
    rw [hresult, hcandidates.eq_ranked (candidates_of_lookup hrows hvector f _) hsorted]
    rfl
  have hpattern : Glob.parse "a*" = .ok [.literal 'a', .anyRun] := by
    simp [Glob.parse, Glob.lexemes, Glob.Draft.read, Glob.Draft.push, Glob.Draft.finish]
  have hglob : KeyFilter.parse "a*" = .ok (.glob [.literal 'a', .anyRun]) := by
    rw [KeyFilter.parse_of_marked (by decide) ⟨'*', by decide, rfl⟩, hpattern]
  have hexact : KeyFilter.parse "a3" = .ok (.exact "a3") :=
    KeyFilter.parse_of_unmarked (by decide) (by simp [KeyFilter.isMark])
  refine ⟨s, hs, hset, hb, (hsearch hglob).trans ?_, (hsearch hexact).trans ?_⟩
  · have hbest : Hit.best 2 (Search.hits steep.components (.glob [.literal 'a', .anyRun]) rows) =
        [⟨"a2", ⟨0x3ff0000000000000⟩⟩, ⟨"a1", ⟨0x3feeb851eb851eb8⟩⟩] := by decide +kernel
    rw [hbest]
  · have hbest : Hit.best 2 (Search.hits steep.components (.exact "a3") rows) =
        [⟨"a3", ⟨0x3feeb851eb851eb8⟩⟩] := by decide +kernel
    rw [hbest]

end Nearest.Shard
