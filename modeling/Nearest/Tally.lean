import Nearest.Fault
import Nearest.Table

/-!
# Tallies

A tally sums the vector counts of several shards, the latest that each has reported under its name.
-/

namespace Nearest

/-- The latest count of each shard. -/
structure Tally where
  counts : Table UInt64 := {}

namespace Tally

/-- The sum of the counts, as a word. -/
def total (t : Tally) : UInt64 :=
  t.counts.toList.foldl (fun n (_, count) => n + count) 0

/-- The count reported under a name. -/
def count? (t : Tally) (id : String) : Option UInt64 :=
  t.counts.get? id

/-- How many names have reported. -/
def shards (t : Tally) : Nat :=
  t.counts.size

/-- Takes a report; a shard has to have a name. -/
def report (t : Tally) (id : String) (count : UInt64) : Except Fault Tally :=
  if id = "" then .error (.argument .emptyShardId)
  else .ok ⟨t.counts.insert id count⟩

end Tally

end Nearest
