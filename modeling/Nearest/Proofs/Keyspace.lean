import Mathlib.Data.List.Dedup
import Nearest.Shard.Image

/-!
# Keyspaces as maps

The reference for shards: a keyspace is one finite map from keys to what they hold and until when,
in which an entry whose deadline has passed counts as absent. It never releases anything.

* `Op` are the operations of a shard on its keys and `Outcome` what they answer; `Shard.run` does
  one on a shard and `Keyspace.run` on the reference, `play` does a list of them with the times at
  which they happen.
* `Shard.vector?`, `Shard.plain?` and `Shard.deadline?` are the live parts of the three tables of a
  shard, `Keyspace.live?` the live part of the reference.
* `Shard.Reached` are the shards that any operations lead to, from an empty shard or a snapshot.
-/

namespace Nearest

/-! ## The map -/

/-- What a key holds. -/
inductive Value
  | vector (r : Record)
  | plain (value : Bytes)
  deriving DecidableEq

/-- What a key holds and when it expires. -/
structure Binding where
  value : Value
  deadline : Option Nat := none
  deriving DecidableEq

namespace Binding

/-- Whether a key still holds this. -/
def isLive (now : Nat) (b : Binding) : Bool :=
  b.deadline.all (now < ·)

/-- The vector that a key holds. -/
def vector? (b : Binding) : Option Record :=
  match b.value with
  | .vector r => some r
  | .plain _ => none

/-- The value that a key holds if it is not a vector. -/
def plain? (b : Binding) : Option Bytes :=
  match b.value with
  | .vector _ => none
  | .plain value => some value

end Binding

/-- Keys with what they hold. -/
abbrev Keyspace := Table Binding

/-! ## Operations -/

/-- The operations on the keys of a shard. -/
inductive Op
  | add (key : String) (payload : Bytes)
  | addRecord (key : String) (r : Record)
  | setPlain (key : String) (value : Bytes)
  | delete (keys : List String)
  | has (key : String)
  | expire (key : String) (ttl : Nat)
  | ttl (key : String)
  | get (key : String)
  | dump (key : String)
  | restore (key : String) (ttl : Option Nat) (payload : Bytes) (replace : Bool)
  | purge
  | flush

/-- What an operation answers. How many keys a purge or a flush has released is not part of it. -/
inductive Outcome
  | done
  | count (n : Nat)
  | flag (b : Bool)
  | lifetime (ttl : Option Nat)
  | record (r : Option Record)
  | payload (p : Option Bytes)
  | fault (why : Fault)

/-- Does operations one after the other, each at its time. -/
def play {σ : Type} (step : σ → Nat → Op → Outcome × σ) : σ → List (Nat × Op) → List Outcome × σ
  | s, [] => ([], s)
  | s, (now, op) :: ops =>
    let (outcome, s) := step s now op
    let (outcomes, s) := play step s ops
    (outcome :: outcomes, s)

namespace Shard

/-- Does one operation on a shard. -/
def run (s : Shard) (now : Nat) : Op → Outcome × Shard
  | .add key payload =>
    match s.add key payload with
    | .ok s => (.done, s)
    | .error e => (.fault e, s)
  | .addRecord key r =>
    match s.addRecord key r with
    | .ok s => (.done, s)
    | .error e => (.fault e, s)
  | .setPlain key value => (.done, s.setPlain key value)
  | .delete keys =>
    let (n, s) := s.delete now keys
    (.count n, s)
  | .has key =>
    let (b, s) := s.exists? now key
    (.flag b, s)
  | .expire key ttl =>
    match s.expire now key ttl with
    | (.ok b, s) => (.flag b, s)
    | (.error e, s) => (.fault e, s)
  | .ttl key =>
    let (ttl, s) := s.ttl now key
    (.lifetime ttl, s)
  | .get key =>
    let (r, s) := s.get now key
    (.record r, s)
  | .dump key =>
    match s.dump now key with
    | (.ok p, s) => (.payload p, s)
    | (.error e, s) => (.fault e, s)
  | .restore key ttl payload replace =>
    match s.restore now key ttl payload replace with
    | (.ok (), s) => (.done, s)
    | (.error e, s) => (.fault e, s)
  | .purge => (.done, (s.purge now).2)
  | .flush => (.done, s.flush.2)

/-! ## The live part of a shard -/

/-- The vector that a key holds, unless it is due. -/
def vector? (s : Shard) (now : Nat) (key : String) : Option Record :=
  if s.isDue now key then none else s.store.get? key

/-- The plain value that a key holds, unless it is due. -/
def plain? (s : Shard) (now : Nat) (key : String) : Option Bytes :=
  if s.isDue now key then none else s.plain.get? key

/-- The deadline of a key, unless it has passed. -/
def deadline? (s : Shard) (now : Nat) (key : String) : Option Nat :=
  (s.deadlines.get? key).filter (now < ·)

/-- A key is live in both shards or in neither, with the same value and the same deadline. -/
structure SameLive (s s' : Shard) (now : Nat) (key : String) : Prop where
  vector : s'.vector? now key = s.vector? now key
  plain : s'.plain? now key = s.plain? now key
  deadline : s'.deadline? now key = s.deadline? now key

/-- The shards that operations lead to, from an empty shard or one that has been loaded. -/
inductive Reached : Shard → Prop
  | new {settings : Settings} {s : Shard} (h : Shard.new settings = .ok s) : Reached s
  | load {settings : Settings} {now : Nat} {file : Option Bytes} {s : Shard}
      (h : Shard.load settings now file = .ok s) : Reached s
  | run {s : Shard} (h : Reached s) (now : Nat) (op : Op) : Reached (s.run now op).2
  | search {s : Shard} (h : Reached s) (now : Nat) (k : Int) (filter : Option String)
      (query : Bytes) : Reached (s.search now k filter query).2
  | image {s : Shard} (h : Reached s) (now : Nat) : Reached (s.image now).2
  | reload {s : Shard} (h : Reached s) (now : Nat) (file : Option Bytes) :
      Reached (s.reload now file).2

end Shard

/-! ## The reference -/

namespace Keyspace

/-- What a key holds, unless its deadline has passed. -/
def live? (k : Keyspace) (now : Nat) (key : String) : Option Binding :=
  (k.get? key).filter (·.isLive now)

/-- Binds a record to a key. A record of another dimension is refused. -/
def bind (dimension : UInt64) (k : Keyspace) (key : String) (r : Record)
    (deadline : Option Nat := none) : Outcome × Keyspace :=
  if r.dimension = dimension.toNat then (.done, k.insert key ⟨.vector r, deadline⟩)
  else (.fault (.vectorSize dimension (UInt64.ofNat r.dimension * 4)), k)

/-- Does one operation on a keyspace of vectors of a dimension. -/
def run (dimension : UInt64) (k : Keyspace) (now : Nat) : Op → Outcome × Keyspace
  | .add key payload =>
    match Record.ofBytes payload dimension with
    | .ok r => k.bind dimension key r
    | .error e => (.fault e, k)
  | .addRecord key r => k.bind dimension key r
  | .setPlain key value => (.done, k.insert key ⟨.plain value, none⟩)
  | .delete keys =>
    (.count (keys.dedup.countP fun key => (k.live? now key).isSome), keys.foldl Table.erase k)
  | .has key => (.flag (k.live? now key).isSome, k)
  | .expire key ttl =>
    match k.live? now key with
    | none => (.flag false, k)
    | some b =>
      if ttl = 0 then (.flag true, k.erase key)
      else
        match deadlineAfter now ttl with
        | .ok deadline => (.flag true, k.insert key { b with deadline := some deadline })
        | .error e => (.fault e, k)
  | .ttl key => (.lifetime (((k.live? now key).bind (·.deadline)).map (· - now)), k)
  | .get key => (.record ((k.live? now key).bind (·.vector?)), k)
  | .dump key =>
    match k.live? now key with
    | none => (.payload none, k)
    | some ⟨.vector r, _⟩ => (.payload (some (Payload.encode r)), k)
    | some ⟨.plain _, _⟩ => (.fault .wrongType, k)
  | .restore key ttl payload replace =>
    if !replace && (k.live? now key).isSome then (.fault .busyKey, k)
    else
      match (ttl.filter (· ≠ 0)).mapM (deadlineAfter now) with
      | .error e => (.fault e, k)
      | .ok deadline =>
        match Payload.decode payload dimension with
        | .error e => (.fault e, k)
        | .ok r => k.bind dimension key r deadline
  | .purge => (.done, k)
  | .flush => (.done, {})

end Keyspace

end Nearest
