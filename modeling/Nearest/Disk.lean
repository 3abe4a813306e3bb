import Std.Data.HashMap
import Nearest.Host

/-!
# A disk

A disk as a value: which files and directories there are. `Disk.host` is a machine with such a disk.
A path is followed name by name, and each directory on the way has to be there, so that `a/../b`
leads to `b` only where `a` is a directory. A file that is put where there is no directory changes
no way (`locate_put`), and what has been written is what is read (`read_of_write`).
-/

namespace Nearest

/-- The names that lead from the top of the tree to a place in it. -/
abbrev Location := List String

/-- What is at a place. -/
inductive Node
  | file (content : Bytes)
  | directory
  deriving DecidableEq

/-- The files and directories of a machine. -/
structure Disk where
  /-- The working directory. It is always there, with the directories above it. -/
  home : Location := []
  nodes : Std.HashMap Location Node := ∅

namespace Disk

/-- How many bytes a name may have. -/
def nameLimit : Nat := 255

/-- How many bytes a path may have. -/
def pathLimit : Nat := 4095

/-- What is at a place. -/
def node? (d : Disk) (l : Location) : Option Node :=
  if l.isPrefixOf d.home then some .directory else d.nodes[l]?

/-- Puts something at a place. -/
def put (d : Disk) (l : Location) (n : Node) : Disk :=
  { d with nodes := d.nodes.insert l n }

/-- Takes away what is at a place. -/
def take (d : Disk) (l : Location) : Disk :=
  { d with nodes := d.nodes.erase l }

/-- Takes away what is at a place and below it. -/
def takeAll (d : Disk) (l : Location) : Disk :=
  { d with nodes := d.nodes.filter fun q _ => !l.isPrefixOf q }

/-- The place that a name stands for in a directory. Above the top is the top. -/
def follow (dir : Location) (name : String) : Except FileFault Location :=
  if name = "." then .ok dir
  else if name = ".." then .ok dir.dropLast
  else if nameLimit < name.utf8ByteSize then .error .nameTooLong
  else .ok (dir ++ [name])

/-- Goes from a directory into the one that a name stands for. -/
def enter (d : Disk) (dir : Location) (name : String) : Except FileFault Location := do
  let l ← follow dir name
  match d.node? l with
  | some .directory => .ok l
  | some (.file _) => .error .notDirectory
  | none => .error .notFound

/-- Where a path starts. -/
def start (d : Disk) (path : String) : Location :=
  if Path.isAbsolute path then [] else d.home

/-- The place that a path leads to, whether there is anything or not. The way there has to be. -/
def locate (d : Disk) (path : String) : Except FileFault Location :=
  if path.toList.contains '\x00' then .error .nulInName
  else if pathLimit < path.utf8ByteSize then .error .nameTooLong
  else if path = "" then .error .notFound
  else
    match (Path.names path).reverse with
    | [] => .ok (d.start path)
    | name :: way => do follow (← way.reverse.foldlM d.enter (d.start path)) name

/-- What a path leads to, if the way is there. With a slash at its end it may lead to no file. -/
def lookUp (d : Disk) (path : String) : Except FileFault (Option Node) := do
  match d.node? (← d.locate path) with
  | some (.file content) =>
    if Path.endsWithSlash path then .error .notDirectory else return some (.file content)
  | node => return node

/-- The content of the file at a path. -/
def read (d : Disk) (path : String) : Except FileFault Bytes := do
  match ← d.lookUp path with
  | some (.file content) => .ok content
  | some .directory => .error .isDirectory
  | none => .error .notFound

/-- Whether there is anything at a path. -/
def present (d : Disk) (path : String) : Bool :=
  match d.lookUp path with
  | .ok (some _) => true
  | _ => false

/-- Whether there is a directory at a path. -/
def isDirectory (d : Disk) (path : String) : Bool :=
  match d.lookUp path with
  | .ok (some .directory) => true
  | _ => false

/-- Makes a directory in one that is there. -/
def makeDir (d : Disk) (path : String) : Except FileFault Disk := do
  let l ← d.locate path
  if (d.node? l).isSome then .error .exists else .ok (d.put l .directory)

/-- Writes a file, in the place of one that is there. -/
def write (d : Disk) (path : String) (content : Bytes) : Except FileFault Disk := do
  let l ← d.locate path
  if d.node? l = some .directory || Path.endsWithSlash path then .error .isDirectory
  else .ok (d.put l (.file content))

/-! ## What has been written -/

theorem node?_put_self {d : Disk} {l : Location} {n : Node} (h : d.node? l ≠ some .directory) :
    (d.put l n).node? l = some n := by
  have below : ¬ l.isPrefixOf d.home = true := fun hp => h (if_pos hp)
  simp [node?, put, below]

theorem node?_put_of_ne {d : Disk} {l q : Location} {n : Node} (h : q ≠ l) :
    (d.put l n).node? q = d.node? q := by
  simp only [node?, put, Std.HashMap.getElem?_insert, beq_iff_eq, Ne.symm h, if_false]

theorem enter_put {d : Disk} {l dir e : Location} {c : Bytes} {name : String}
    (h : d.node? l ≠ some .directory) (he : d.enter dir name = .ok e) :
    (d.put l (.file c)).enter dir name = .ok e := by
  unfold enter at he ⊢
  cases hf : follow dir name with
  | error e => simp [hf, bind, Except.bind] at he
  | ok r =>
    have hne : r ≠ l := by
      rintro rfl
      simp only [hf, bind, Except.bind] at he
      split at he <;> simp_all
    simpa only [hf, bind, Except.bind, node?_put_of_ne hne] using he

theorem foldlM_enter_put {d : Disk} {l e : Location} {c : Bytes} (h : d.node? l ≠ some .directory)
    (way : List String) (dir : Location) (he : way.foldlM d.enter dir = .ok e) :
    way.foldlM (d.put l (.file c)).enter dir = .ok e := by
  induction way generalizing dir with
  | nil => exact he
  | cons name way ih =>
    rw [List.foldlM_cons] at he ⊢
    cases hn : d.enter dir name with
    | error e => simp [hn, bind, Except.bind] at he
    | ok r =>
      rw [enter_put h hn]
      exact ih r (by simpa [hn, bind, Except.bind] using he)

/-- A way that is there stays when a file is put where there is no directory. -/
theorem locate_put {d : Disk} {l q : Location} {c : Bytes} {path : String}
    (h : d.node? l ≠ some .directory) (hq : d.locate path = .ok q) :
    (d.put l (.file c)).locate path = .ok q := by
  have same : (d.put l (.file c)).start path = d.start path := rfl
  unfold locate at hq ⊢
  rw [same]
  split at hq <;> try contradiction
  split at hq <;> try contradiction
  split at hq <;> try contradiction
  simp only [*, Bool.false_eq_true, if_false]
  split at hq
  · exact hq
  · rename_i name way _
    cases hw : way.reverse.foldlM d.enter (d.start path) with
    | error e => simp [hw, bind, Except.bind] at hq
    | ok e => simpa only [foldlM_enter_put h _ _ hw, hw] using hq

/-- A file holds what has been written to it. -/
theorem read_of_write {d d' : Disk} {path : String} {c : Bytes} (h : d.write path c = .ok d') :
    d'.read path = .ok c := by
  unfold write at h
  cases hl : d.locate path with
  | error e => simp [hl, bind, Except.bind] at h
  | ok l =>
    simp only [hl, bind, Except.bind] at h
    split at h
    · contradiction
    · rename_i free
      simp only [Bool.or_eq_true, decide_eq_true_eq, not_or] at free
      cases h
      simp [read, lookUp, locate_put free.1 hl, node?_put_self free.1, free.2, bind, Except.bind,
        pure, Except.pure]

/-- Gives a file another name. -/
def rename (d : Disk) (source target : String) : Except FileFault Disk := do
  let content ← d.read source
  (d.take (← d.locate source)).write target content

/-- Makes a change. -/
def perform (d : Disk) : FileStep → Except FileFault Disk
  | .create path => d.write path []
  | .write path content => d.write path content
  | .sync path => (d.read path).map fun _ => d
  | .rename source target => d.rename source target
  | .replace path content => d.write path content

/-- Makes a change, or leaves the disk as it is. -/
def attempt (change : Disk → Except FileFault Disk) : StateM Disk (Except FileFault Unit) :=
  fun d =>
    match change d with
    | .ok d => (.ok (), d)
    | .error e => (.error e, d)

/-- A machine with a disk, at a moment that does not pass, with random numbers from a source. -/
def host (now : Nat) (random : StdGen) : Host (StateM Disk) where
  read path := fun d => (d.read path, d)
  present path := fun d => (d.present path, d)
  isDirectory path := fun d => (d.isDirectory path, d)
  makeDir path := attempt (·.makeDir path)
  perform step := attempt (·.perform step)
  now := pure now
  ticks := pure 0
  random := pure random

end Disk

end Nearest
