import Nearest.Shard.Basic
import Nearest.Snapshot

/-!
# Shards and snapshots

`Shard.image` captures the live vectors of a shard for a snapshot, `Shard.load` builds a shard from
a snapshot file. Deadlines are stored as absolute times, so they keep running in the meantime.
-/

namespace Nearest.Shard

/-- A deadline as a word; beyond the last word, the last word. -/
def expiryOf (deadline : Nat) : UInt64 :=
  UInt64.ofNat (min deadline 0xffffffffffffffff)

/-- The vectors of a shard at this moment, without those that are due. -/
def image (s : Shard) (now : Nat) : Snapshot.Image × Shard :=
  let (_, s) := s.purge now
  let ofVectors := s.deadlines.toList.filter fun (key, _) => s.store.contains key
  let expiries := ofVectors.map fun (key, deadline) => (key, expiryOf deadline)
  ({ store := s.store, expiries := ⟨expiries⟩ }, s)

/-- Takes in one entry of a snapshot: it is checked as a payload is and bound to its key, and has
its deadline from then on. An entry that is due is passed over. -/
def receive (now : Nat) : Snapshot.Sink Shard := fun s e =>
  if e.expiresAt.any (·.toNat ≤ now) then (.ok (), s)
  else
    match Record.ofDeclared e.dimension e.data s.dimension with
    | .error why => (.error (.corruptRecord e.key why), s)
    | .ok r =>
      match s.addRecord e.key r with
      | .error why => (.error why, s)
      | .ok s =>
        match e.expiresAt with
        | some expiry =>
          (.ok (), { s with deadlines := s.deadlines.insert e.key expiry.toNat })
        | none => (.ok (), s)

/-- The shard with these settings that a snapshot file holds; an empty one if there is no file. The
first fault ends the loading. -/
def load (settings : Settings) (now : Nat) (file : Option Bytes) : Except Fault Shard :=
  match new settings with
  | .error e => .error e
  | .ok s =>
    match file with
    | none => .ok s
    | some file =>
      match Snapshot.walk (receive now) s file settings.dimension with
      | (.ok _, s) => .ok s
      | (.error e, _) => .error e

/-- Puts what a snapshot file holds in the place of a shard's contents; how many vectors are
resident then. A fault leaves the shard as it was. -/
def reload (s : Shard) (now : Nat) (file : Option Bytes) : Except Fault Nat × Shard :=
  match load s.settings now file with
  | .ok s => (.ok s.store.size, s)
  | .error e => (.error e, s)

end Nearest.Shard
