import Nearest.Proofs.Columns
import Nearest.Proofs.Selection
import Nearest.Search

/-!
# Searching a store

`Search.hits` are the rows of a store that a filter lets through, each with its similarity to the
query. All ways of a search select the best of them: the scan of all slots (`scan_eq`), the scan in
pieces (`keeps_scanParallel`) and the look at a single key (`keeps_lookUp`). Together they are
`byVector_eq`.
-/

namespace Nearest.Search

variable {store : Store} {rows : List (String × List UInt32)} {query : List UInt32}
  {filter : KeyFilter}

/-- A row as a hit, with the similarity computed from the vector itself. -/
def hit (query : List UInt32) (row : String × List UInt32) : Hit where
  key := row.1
  score := Score.ofFloat (Similarity.cosine query row.2)

/-- The rows that a filter lets through, as hits. -/
def hits (query : List UInt32) (filter : KeyFilter) (rows : List (String × List UInt32)) :
    List Hit :=
  (rows.filter fun row => filter.accepts row.1).map (hit query)

theorem hits_append (query : List UInt32) (filter : KeyFilter)
    (rows rows' : List (String × List UInt32)) :
    hits query filter (rows ++ rows') = hits query filter rows ++ hits query filter rows' := by
  rw [hits, List.filter_append, List.map_append]
  rfl

/-! ## One slot -/

/-- The norm from the column is the norm of the vector, so the score is that of the vector. -/
theorem score_eq (h : store.Holds rows) {i : Nat} {row : String × List UInt32}
    (hi : rows[i]? = some row) :
    score store query (Similarity.norm query) i = (hit query row).score := by
  rw [score, h.vector hi, h.norm hi]
  rfl

theorem offer_eq (h : store.Holds rows) {i : Nat} {row : String × List UInt32}
    (hi : rows[i]? = some row) (s : Selection) :
    offer store query (Similarity.norm query) filter s i =
      s.pushAll (hits query filter [row]) := by
  rw [offer, h.key hi, score_eq h hi]
  cases hf : filter.accepts row.1 <;> simp [hits, hf, Selection.pushAll, hit]

/-! ## The ways of a search -/

variable (query filter)

theorem scan_eq (h : store.Holds rows) (start count : Nat) (hle : start + count ≤ rows.length)
    (s : Selection) :
    scan store query (Similarity.norm query) filter start count s =
      s.pushAll (hits query filter ((rows.drop start).take count)) := by
  induction count generalizing start s with
  | zero => simp [scan, hits, Selection.pushAll]
  | succ count ih =>
    have hlt : start < rows.length := by omega
    have hi : rows[start]? = some rows[start] := List.getElem?_eq_getElem hlt
    have hrest := ih (start + 1) (by omega) (s.pushAll (hits query filter [rows[start]]))
    have hsplit := hits_append query filter [rows[start]] ((rows.drop (start + 1)).take count)
    rw [List.singleton_append] at hsplit
    unfold scan at hrest ⊢
    rw [List.range'_succ, List.foldl_cons, offer_eq h hi, hrest, List.drop_eq_getElem_cons hlt,
      List.take_succ_cons, hsplit, Selection.pushAll_append]

theorem keeps_scan (h : store.Holds rows) (start count : Nat) (hle : start + count ≤ rows.length)
    (k : Nat) :
    (scan store query (Similarity.norm query) filter start count (Selection.empty k)).Keeps
        (hits query filter ((rows.drop start).take count)) ∧
      (scan store query (Similarity.norm query) filter start count
        (Selection.empty k)).capacity = k := by
  rw [scan_eq query filter h start count hle]
  exact Selection.Keeps.pushAll_empty k _

/-- What the piece with this number of a parallel scan selects. -/
def piece (store : Store) (query : List UInt32) (filter : KeyFilter) (k i : Nat) : Selection :=
  scan store query (Similarity.norm query) filter (i * pieceSize)
    (min pieceSize (store.size - i * pieceSize)) (Selection.empty k)

/-- The first `m` pieces of a parallel scan, merged. -/
theorem keeps_pieces (h : store.Holds rows) (k : Nat) {m : Nat}
    (hm : m * pieceSize < rows.length + pieceSize) :
    (((List.range m).map (piece store query filter k)).foldl Selection.merge
        (Selection.empty k)).Keeps (hits query filter (rows.take (m * pieceSize))) ∧
      (((List.range m).map (piece store query filter k)).foldl Selection.merge
        (Selection.empty k)).capacity = k := by
  induction m with
  | zero =>
    refine ⟨?_, rfl⟩
    rw [Nat.zero_mul, List.take_zero]
    exact Selection.Keeps.empty k
  | succ m ih =>
    rw [Nat.succ_mul] at hm ⊢
    obtain ⟨hkeeps, hcapacity⟩ := ih (by omega)
    obtain ⟨hpiece, hpieceCapacity⟩ := keeps_scan query filter h (m * pieceSize)
      (min pieceSize (rows.length - m * pieceSize)) (by omega) k
    have hmerge := hkeeps.merge hpiece (by rw [hcapacity, hpieceCapacity])
    rw [hcapacity, ← hits_append, ← List.length_drop, ← List.take_eq_take_min, List.length_drop,
      ← List.take_add, ← h.size] at hmerge
    rw [List.range_succ, List.map_append, List.foldl_append]
    exact hmerge

theorem keeps_scanParallel (h : store.Holds rows) (k : Nat) :
    (scanParallel store query (Similarity.norm query) filter k).Keeps (hits query filter rows) ∧
      (scanParallel store query (Similarity.norm query) filter k).capacity = k := by
  have hle := Nat.div_mul_le_self (store.size + pieceSize - 1) pieceSize
  have hlt := Nat.lt_div_mul_add (a := store.size + pieceSize - 1) (b := pieceSize) (by decide)
  have hpieces := keeps_pieces query filter h k (m := (store.size + pieceSize - 1) / pieceSize)
    (by rw [← h.size]; have : 0 < pieceSize := by decide
        omega)
  rw [List.take_of_length_le (by rw [← h.size]; omega)] at hpieces
  have hmerged : scanParallel store query (Similarity.norm query) filter k =
      ((List.range ((store.size + pieceSize - 1) / pieceSize)).map
        (piece store query filter k)).foldl Selection.merge (Selection.empty k) := by
    rw [scanParallel, List.foldl_map, List.foldl_map]
    rfl
  rw [hmerged]
  exact hpieces

theorem keeps_lookUp (h : store.Holds rows) (key : String) (k : Nat) :
    (lookUp store query (Similarity.norm query) key k).Keeps (hits query (.exact key) rows) ∧
      (lookUp store query (Similarity.norm query) key k).capacity = k := by
  unfold lookUp
  cases hs : store.slot? key with
  | none =>
    have hnone : hits query (.exact key) rows = [] := by
      rw [hits, List.filter_eq_nil_iff.2, List.map_nil]
      intro row hrow heq
      exact h.slot?_eq_none.1 hs (List.mem_map.2 ⟨row, hrow, (beq_iff_eq.1 heq).symm⟩)
    rw [hnone]
    exact ⟨Selection.Keeps.empty k, rfl⟩
  | some i =>
    have hkey := (h.slot_iff key i).1 hs
    rw [List.getElem?_map, Option.map_eq_some_iff] at hkey
    obtain ⟨row, hi, rfl⟩ := hkey
    have hone : hits query (.exact row.1) rows = [hit query row] := by
      unfold hits
      exact congrArg (List.map _) (h.distinct.filter_eq_singleton (List.mem_of_getElem? hi))
    rw [hone]
    simp only [h.key hi, score_eq h hi]
    exact ⟨(Selection.Keeps.empty k).push (hit query row), Selection.capacity_push _ _⟩

/-- **Every way of a search selects the best** `k` of the rows that the filter lets through. -/
theorem byVector_eq (h : store.Holds rows) (settings : Settings) (k : Nat) :
    byVector settings store k query filter =
      { results := Hit.best k (hits query filter rows) } := by
  have hscan := keeps_scan query filter h 0 rows.length (by omega) k
  rw [List.drop_zero, List.take_length, ← h.size] at hscan
  have hselect : (select settings store k query filter).Keeps (hits query filter rows) ∧
      (select settings store k query filter).capacity = k := by
    simp only [select]
    cases filter with
    | exact key => exact keeps_lookUp query h key k
    | all =>
      simp only
      split
      · exact keeps_scanParallel query _ h k
      · exact hscan
    | glob pattern =>
      simp only
      split
      · exact keeps_scanParallel query _ h k
      · exact hscan
  have hsorted := hselect.1
  rw [Selection.Keeps, hselect.2] at hsorted
  rw [byVector, Response.ofSelection, hsorted]

end Nearest.Search
