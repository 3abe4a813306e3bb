import Nearest.Proofs.Alignment
import Nearest.Proofs.Search

/-!
# Scanning side by side

A search of many vectors cuts the slots into pieces, scans every piece on its own and merges the
selections. How the slots are cut and in which order the selections are merged makes no difference.

* `Search.Plan` is a way of doing so: a tree of pieces, with selections that are offered nothing
  anywhere in it.
* `Search.keeps_plan`: a plan selects the best of the rows in its slots.
* `Search.byVector_eq_plan`: a plan that scans every slot once answers what scanning slot by slot
  does. The plan of `Search.scanParallel` is one of them (`Plan.slots_inPieces`,
  `Plan.scan_inPieces`).
-/

namespace Nearest.Search

/-- A way of scanning slots side by side. -/
inductive Plan
  /-- A selection that is offered nothing. -/
  | nothing
  /-- The selection of `count` slots from `start` on. -/
  | piece (start count : Nat)
  /-- Two selections merged. -/
  | merge (left right : Plan)

namespace Plan

/-- The slots that are scanned, piece by piece. -/
def slots : Plan → List Nat
  | nothing => []
  | piece start count => List.range' start count
  | merge left right => left.slots ++ right.slots

/-- Scans every piece on its own and merges the selections. -/
def scan (store : Store) (query : List UInt32) (queryNorm : Float) (filter : KeyFilter) (k : Nat) :
    Plan → Selection
  | nothing => Selection.empty k
  | piece start count =>
    Search.scan store query queryNorm filter start count (Selection.empty k)
  | merge left right =>
    (left.scan store query queryNorm filter k).merge (right.scan store query queryNorm filter k)

/-! ## The plan of a parallel scan -/

/-- The first `m` pieces of a parallel scan of so many slots, merged one after the other. -/
def firstPieces (size m : Nat) : Plan :=
  (List.range m).foldl
    (fun plan i => plan.merge (piece (i * pieceSize) (min pieceSize (size - i * pieceSize))))
    nothing

/-- The way in which a parallel scan goes over so many slots. -/
def inPieces (size : Nat) : Plan :=
  firstPieces size ((size + pieceSize - 1) / pieceSize)

theorem firstPieces_succ (size m : Nat) :
    firstPieces size (m + 1) =
      (firstPieces size m).merge
        (piece (m * pieceSize) (min pieceSize (size - m * pieceSize))) := by
  rw [firstPieces, List.range_succ, List.foldl_append]
  rfl

theorem slots_firstPieces (size m : Nat) :
    (firstPieces size m).slots = List.range (min (m * pieceSize) size) := by
  induction m with
  | zero => simp [firstPieces, slots]
  | succ m ih =>
    rw [firstPieces_succ, slots, ih, slots, Nat.succ_mul]
    rcases Nat.le_total (m * pieceSize) size with hle | hle
    · have happend : List.range (m * pieceSize) ++
          List.range' (m * pieceSize) (min pieceSize (size - m * pieceSize)) =
            List.range (m * pieceSize + min pieceSize (size - m * pieceSize)) := by
        rw [List.range_add, List.range'_eq_map_range]
      rw [Nat.min_eq_left hle, happend]
      congr 1
      omega
    · -- every slot has been scanned before, so this piece has none
      rw [Nat.sub_eq_zero_of_le hle, Nat.min_zero, Nat.min_eq_right hle,
        Nat.min_eq_right (by omega)]
      exact List.append_nil _

/-- A parallel scan goes over every slot once. -/
theorem slots_inPieces (size : Nat) : (inPieces size).slots = List.range size := by
  have hpos : 0 < pieceSize := by decide
  have hlt := Nat.lt_div_mul_add (a := size + pieceSize - 1) hpos
  rw [inPieces, slots_firstPieces, Nat.min_eq_right (by omega)]

theorem scan_inPieces (store : Store) (query : List UInt32) (queryNorm : Float)
    (filter : KeyFilter) (k : Nat) :
    (inPieces store.size).scan store query queryNorm filter k =
      scanParallel store query queryNorm filter k := by
  have hpieces : ∀ m, (firstPieces store.size m).scan store query queryNorm filter k =
      (List.range m).foldl
        (fun s i => s.merge (Search.scan store query queryNorm filter (i * pieceSize)
          (min pieceSize (store.size - i * pieceSize)) (Selection.empty k)))
        (Selection.empty k) := by
    intro m
    induction m with
    | zero => rfl
    | succ m ih =>
      rw [firstPieces_succ, scan, ih, List.range_succ, List.foldl_append]
      rfl
  rw [inPieces, hpieces, scanParallel, List.foldl_map]
  rfl

end Plan

/-! ## What a plan selects -/

variable {store : Store} {rows : List (String × List UInt32)} (query : List UInt32)
  (filter : KeyFilter)

/-- The rows in these slots. -/
def rowsAt (rows : List (String × List UInt32)) (slots : List Nat) :
    List (String × List UInt32) :=
  slots.filterMap (rows[·]?)

theorem rowsAt_range (rows : List (String × List UInt32)) :
    rowsAt rows (List.range rows.length) = rows := by
  induction rows with
  | nil => rfl
  | cons row rows ih =>
    have hhead : (row :: rows)[0]? = some row := rfl
    rw [rowsAt, List.length_cons, List.range_succ_eq_map, List.filterMap_cons_some hhead,
      List.filterMap_map]
    exact congrArg (row :: ·) ih

theorem foldl_offer_eq (h : store.Holds rows) {slots : List Nat}
    (hslots : ∀ i ∈ slots, i < rows.length) (s : Selection) :
    slots.foldl (offer store query (Similarity.norm query) filter) s =
      s.pushAll (hits query filter (rowsAt rows slots)) := by
  induction slots generalizing s with
  | nil => rfl
  | cons i slots ih =>
    obtain ⟨hi, hrest⟩ := List.forall_mem_cons.1 hslots
    have hrow : rows[i]? = some rows[i] := List.getElem?_eq_getElem hi
    have hsplit := hits_append query filter [rows[i]] (rowsAt rows slots)
    rw [List.foldl_cons, offer_eq h hrow, ih hrest, ← Selection.pushAll_append, ← hsplit, rowsAt,
      rowsAt, List.filterMap_cons_some hrow]
    rfl

/-- A plan selects the best of the rows in its slots. -/
theorem keeps_plan (h : store.Holds rows) (k : Nat) {plan : Plan}
    (hslots : ∀ i ∈ plan.slots, i < rows.length) :
    (plan.scan store query (Similarity.norm query) filter k).Keeps
        (hits query filter (rowsAt rows plan.slots)) ∧
      (plan.scan store query (Similarity.norm query) filter k).capacity = k := by
  induction plan with
  | nothing => exact ⟨Selection.Keeps.empty k, rfl⟩
  | piece start count =>
    have hall := Selection.Keeps.pushAll_empty k
      (hits query filter (rowsAt rows (Plan.piece start count).slots))
    rw [← foldl_offer_eq query filter h hslots] at hall
    exact hall
  | merge left right ihl ihr =>
    obtain ⟨hl, hlk⟩ := ihl fun i hi => hslots i (List.mem_append_left _ hi)
    obtain ⟨hr, hrk⟩ := ihr fun i hi => hslots i (List.mem_append_right _ hi)
    have hmerge := hl.merge hr (by rw [hlk, hrk])
    rw [hlk, ← hits_append, rowsAt, rowsAt, ← List.filterMap_append] at hmerge
    exact hmerge

/-- The response with the hits of a selection that keeps the best. -/
theorem ofSelection_eq {s : Selection} {hs : List Hit} {k : Nat}
    (h : s.Keeps hs ∧ s.capacity = k) :
    Response.ofSelection s = { results := Hit.best k hs } := by
  rw [Response.ofSelection, h.1, h.2]

/-- **Scanning side by side** answers what scanning slot by slot does, however the slots are cut
into pieces and the selections of the pieces are merged. So does a search, whichever of the two ways
it takes; its own way of scanning side by side is one of these. -/
theorem byVector_eq_plan (h : store.Aligned) {plan : Plan}
    (hplan : plan.slots.Perm (List.range store.size)) (settings : Settings) (k : Nat) :
    let queryNorm := Similarity.norm query
    let inOrder := scan store query queryNorm filter 0 store.size (Selection.empty k)
    Response.ofSelection (plan.scan store query queryNorm filter k) =
        Response.ofSelection inOrder ∧
      byVector settings store k query filter = Response.ofSelection inOrder ∧
      (Plan.inPieces store.size).slots = List.range store.size ∧
      scanParallel store query queryNorm filter k =
        (Plan.inPieces store.size).scan store query queryNorm filter k := by
  intro queryNorm inOrder
  have hholds := h.holds
  have hscan := keeps_scan query filter hholds 0 store.size (by rw [hholds.size]; omega) k
  rw [List.drop_zero, hholds.size, List.take_length, ← hholds.size] at hscan
  have hperm : (hits query filter (rowsAt store.toList plan.slots)).Perm
      (hits query filter store.toList) := by
    have hrows := hplan.filterMap (store.toList[·]?)
    rw [hholds.size, ← rowsAt, ← rowsAt, rowsAt_range] at hrows
    exact (hrows.filter _).map _
  have hmerged := keeps_plan query filter hholds k fun i hi =>
    hholds.size ▸ List.mem_range.1 (hplan.mem_iff.1 hi)
  refine ⟨?_, ?_, Plan.slots_inPieces _, (Plan.scan_inPieces store query _ filter k).symm⟩
  · rw [ofSelection_eq hscan, ofSelection_eq hmerged, Hit.best_perm hperm]
  · rw [ofSelection_eq hscan, byVector_eq query filter hholds]

/-- Two slots of which the second is scanned first, with an empty selection between them. -/
theorem byVector_eq_plan_pair :
    let store := (Store.empty 1).after
      [.upsert "a" ⟨[0x3f800000]⟩, .upsert "b" ⟨[0x40000000]⟩]
    let plan := Plan.merge (.piece 1 1) (.merge .nothing (.piece 0 1))
    store.Aligned ∧ plan.slots.Perm (List.range store.size) ∧
      byVector { dimension := 1, parallelThreshold := 1 } store 1 [0x3f800000] .all =
        Response.ofSelection
          (plan.scan store [0x3f800000] (Similarity.norm [0x3f800000]) .all 1) := by
  intro store plan
  have hholds := ((Store.holds_empty 1).after
    [.upsert "a" ⟨[0x3f800000]⟩, .upsert "b" ⟨[0x40000000]⟩]).2
  have hsize : store.size = 2 := hholds.size
  have hplan : plan.slots.Perm (List.range store.size) := by
    rw [hsize]
    decide
  obtain ⟨hscan, hvector, -⟩ := byVector_eq_plan [0x3f800000] .all hholds.aligned hplan
    { dimension := 1, parallelThreshold := 1 } 1
  exact ⟨hholds.aligned, hplan, hvector.trans hscan.symm⟩

end Nearest.Search
