import Nearest.KeyFilter
import Nearest.Response
import Nearest.Store

/-!
# Exact search

A search scores every resident vector that the filter lets through against the query and keeps the
best `k`. A filter that names one key looks only at that key. Many vectors are scanned in pieces
side by side, and the selections of the pieces are merged.
-/

namespace Nearest.Search

/-- The similarity of the vector in a slot to the query, with its norm taken from its column. -/
def score (store : Store) (query : List UInt32) (queryNorm : Float) (slot : Nat) : Score :=
  Score.ofFloat
    (Similarity.ofParts (Similarity.dot query (store.vector slot)) queryNorm (store.norm slot))

/-- Offers the vector in a slot to a selection, if the filter lets its key through. -/
def offer (store : Store) (query : List UInt32) (queryNorm : Float) (filter : KeyFilter)
    (s : Selection) (slot : Nat) : Selection :=
  let key := store.key slot
  if filter.accepts key then s.push ⟨key, score store query queryNorm slot⟩ else s

/-- Offers the vectors in `count` slots from `start` on. -/
def scan (store : Store) (query : List UInt32) (queryNorm : Float) (filter : KeyFilter)
    (start count : Nat) (s : Selection) : Selection :=
  (List.range' start count).foldl (offer store query queryNorm filter) s

/-- How many slots a piece of a parallel scan has. -/
def pieceSize : Nat := 4096

/-- Scans all slots in pieces side by side. -/
def scanParallel (store : Store) (query : List UInt32) (queryNorm : Float) (filter : KeyFilter)
    (k : Nat) : Selection :=
  let piece := fun i =>
    let start := i * pieceSize
    let count := min pieceSize (store.size - start)
    Task.spawn fun _ => scan store query queryNorm filter start count (Selection.empty k)
  let pieces := (List.range ((store.size + pieceSize - 1) / pieceSize)).map piece
  pieces.foldl (fun s t => s.merge t.get) (Selection.empty k)

/-- Looks at one key only. -/
def lookUp (store : Store) (query : List UInt32) (queryNorm : Float) (key : String) (k : Nat) :
    Selection :=
  match store.slot? key with
  | some slot => (Selection.empty k).push ⟨store.key slot, score store query queryNorm slot⟩
  | none => Selection.empty k

/-- The best `k` of the vectors that the filter lets through. -/
def select (settings : Settings) (store : Store) (k : Nat) (query : List UInt32)
    (filter : KeyFilter) : Selection :=
  let queryNorm := Similarity.norm query
  match filter with
  | .exact key => lookUp store query queryNorm key k
  | filter =>
    if settings.parallelThreshold.toNat ≤ store.size then
      scanParallel store query queryNorm filter k
    else scan store query queryNorm filter 0 store.size (Selection.empty k)

/-- Searches with a query that is known to be a vector of the store's dimension. -/
def byVector (settings : Settings) (store : Store) (k : Nat) (query : List UInt32)
    (filter : KeyFilter) : Response :=
  .ofSelection (select settings store k query filter)

/-- Searches with a query as it comes in: `k` has to be positive, and the query the payload of a
vector. -/
def byPayload (settings : Settings) (store : Store) (k : Int) (query : Bytes) (filter : KeyFilter) :
    Except Fault Response :=
  if k ≤ 0 then .error (.argument (.resultCount k))
  else
    match Record.ofBytes query settings.dimension with
    | .ok r => .ok (byVector settings store k.toNat r.components filter)
    | .error e => .error e

end Nearest.Search
