import Nearest.Payload
import Nearest.Search
import Nearest.Tally

/-!
# Shards

A shard is a keyspace: each key holds a vector or a plain value, and may have a deadline. A key
whose deadline has passed counts as absent. It is released when an operation comes across it: the
operations on one key settle that key first (`Shard.settle`), a search and a snapshot release all
keys that are due (`Shard.purge`), and the counts leave out what is due.

Times are milliseconds since the epoch. Every operation takes the time at which it happens, so one
operation sees one moment.
-/

namespace Nearest

/-- A keyspace of vectors and plain values. -/
structure Shard where
  settings : Settings
  /-- The vectors. -/
  store : Store
  /-- The values that are not vectors. -/
  plain : Table Bytes := {}
  /-- When keys expire. -/
  deadlines : Table Nat := {}

/-- The last moment that a deadline can be: the largest signed count of seconds, and its
milliseconds. -/
def lastMoment : Nat := 0x8000000000000000 * 1000 - 1

/-- The deadline of a time to live that begins now. -/
def deadlineAfter (now ttl : Nat) : Except Fault Nat :=
  if now + ttl ≤ lastMoment then .ok (now + ttl) else .error .expireTime

namespace Shard

/-- A shard without keys. -/
def new (settings : Settings) : Except Fault Shard :=
  match settings.check with
  | .ok () => .ok { settings, store := Store.empty settings.dimension }
  | .error e => .error e

/-- The dimension of the vectors. -/
def dimension (s : Shard) : UInt64 :=
  s.settings.dimension

/-! ## Keys and deadlines -/

/-- Whether a key holds anything, due or not. -/
def holds (s : Shard) (key : String) : Bool :=
  s.store.contains key || s.plain.contains key

/-- Releases whatever a key holds; whether it held anything. -/
def release (s : Shard) (key : String) : Bool × Shard :=
  let (wasVector, store) := s.store.remove key
  (wasVector || s.plain.contains key,
    { s with store, plain := s.plain.erase key, deadlines := s.deadlines.erase key })

/-- Whether the deadline of a key has passed. -/
def isDue (s : Shard) (now : Nat) (key : String) : Bool :=
  (s.deadlines.get? key).any (· ≤ now)

/-- Releases a key if it is due. -/
def settle (s : Shard) (now : Nat) (key : String) : Shard :=
  if s.isDue now key then (s.release key).2 else s

/-- The keys that are due. -/
def due (s : Shard) (now : Nat) : List String :=
  s.deadlines.keysWhere (· ≤ now)

/-- Releases all keys that are due; how many deadlines had passed. -/
def purge (s : Shard) (now : Nat) : Nat × Shard :=
  let due := s.due now
  (due.length, due.foldl (fun s key => (s.release key).2) s)

/-! ## Operations on keys -/

/-- Binds a record to a key, in the place of whatever it held. A record of another dimension is
refused. -/
def addRecord (s : Shard) (key : String) (r : Record) : Except Fault Shard :=
  match s.store.upsert key r with
  | .ok (_, store) =>
    .ok { s with store, plain := s.plain.erase key, deadlines := s.deadlines.erase key }
  | .error e => .error e

/-- Binds the vector in a payload to a key. -/
def add (s : Shard) (key : String) (payload : Bytes) : Except Fault Shard :=
  match Record.ofBytes payload s.dimension with
  | .ok r => s.addRecord key r
  | .error e => .error e

/-- Binds a plain value to a key, in the place of whatever it held. -/
def setPlain (s : Shard) (key : String) (value : Bytes) : Shard :=
  { s with
    store := (s.store.remove key).2
    plain := s.plain.insert key value
    deadlines := s.deadlines.erase key }

/-- Deletes keys; how many of them there were. -/
def delete (s : Shard) (now : Nat) : List String → Nat × Shard
  | [] => (0, s)
  | key :: keys =>
    if s.isDue now key then delete (s.release key).2 now keys
    else
      let (held, s) := s.release key
      let (count, s) := delete s now keys
      (if held then count + 1 else count, s)

/-- Whether a key exists. -/
def exists? (s : Shard) (now : Nat) (key : String) : Bool × Shard :=
  let s := s.settle now key
  (s.holds key, s)

/-- Gives a key a time to live; whether the key exists. A time of zero deletes it. -/
def expire (s : Shard) (now : Nat) (key : String) (ttl : Nat) : Except Fault Bool × Shard :=
  let s := s.settle now key
  if !s.holds key then (.ok false, s)
  else if ttl = 0 then (.ok true, (s.release key).2)
  else
    match deadlineAfter now ttl with
    | .ok deadline => (.ok true, { s with deadlines := s.deadlines.insert key deadline })
    | .error e => (.error e, s)

/-- How long a key has to live, if it has a deadline. -/
def ttl (s : Shard) (now : Nat) (key : String) : Option Nat × Shard :=
  let s := s.settle now key
  ((s.deadlines.get? key).map (· - now), s)

/-- Deletes all keys; how many vectors were resident. -/
def flush (s : Shard) : Nat × Shard :=
  let (released, store) := s.store.clear
  (released, { s with store, plain := {}, deadlines := {} })

/-- The record that a key holds. -/
def get (s : Shard) (now : Nat) (key : String) : Option Record × Shard :=
  let s := s.settle now key
  (s.store.get? key, s)

/-- The payload of the vector that a key holds; nothing if the key does not exist. -/
def dump (s : Shard) (now : Nat) (key : String) : Except Fault (Option Bytes) × Shard :=
  let s := s.settle now key
  match s.store.get? key with
  | some r => (.ok (some (Payload.encode r)), s)
  | none => (if s.plain.contains key then .error .wrongType else .ok none, s)

/-- Binds the vector in a dumped payload to a key that is still free, once all of it is known to be
in order. A time to live of zero is none. -/
def restoreFree (s : Shard) (now : Nat) (key : String) (ttl : Option Nat) (payload : Bytes) :
    Except Fault Shard := do
  let deadline ← (ttl.filter (· ≠ 0)).mapM (deadlineAfter now)
  let r ← Payload.decode payload s.dimension
  let s ← s.addRecord key r
  match deadline with
  | some deadline => return { s with deadlines := s.deadlines.insert key deadline }
  | none => return s

/-- Binds the vector in a dumped payload to a key. A key that exists is taken only if it may be
replaced; a fault leaves what it held. -/
def restore (s : Shard) (now : Nat) (key : String) (ttl : Option Nat) (payload : Bytes)
    (replace : Bool) : Except Fault Unit × Shard :=
  let s := if replace then s else s.settle now key
  if !replace && s.holds key then (.error .busyKey, s)
  else
    match s.restoreFree now key ttl payload with
    | .ok s => (.ok (), s)
    | .error e => (.error e, s)

/-! ## Counts and search -/

/-- How many vectors there are. -/
def vectorCount (s : Shard) (now : Nat) : Nat :=
  s.store.size - ((s.due now).filter s.store.contains).length

/-- How many keys there are. -/
def keyCount (s : Shard) (now : Nat) : Nat :=
  s.store.size + s.plain.size - (s.due now).length

/-- The keys of the resident vectors. -/
def vectorKeys (s : Shard) : List String :=
  s.store.keys.toList

/-- The best `k` vectors for a query, of those that the filter lets through. -/
def search (s : Shard) (now : Nat) (k : Int) (filter : Option String) (query : Bytes) :
    Except Fault Response × Shard :=
  match filter.elim (.ok .all) KeyFilter.parse with
  | .error e => (.error e, s)
  | .ok filter =>
    let (_, s) := s.purge now
    (Search.byPayload s.settings s.store k query filter, s)

/-- Reports the number of vectors to a tally under a name. -/
def report (s : Shard) (now : Nat) (id : String) (t : Tally) : Except Fault (Nat × Tally) :=
  let count := s.vectorCount now
  (t.report id (UInt64.ofNat count)).map fun t => (count, t)

end Shard

end Nearest
