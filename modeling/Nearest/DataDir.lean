import Nearest.Disk
import Nearest.Shard.Image

/-!
# Data directories

A data directory holds the snapshot of a shard and a manifest that describes it. A snapshot is first
written under another name and gets its own only when all of it is safe, so that a save that fails
on the way leaves the snapshot before it; the manifest follows.
-/

namespace Nearest

/-- What a save has written. -/
structure SaveStats where
  records : Nat
  bytes : Nat
  deriving DecidableEq

/-- The description of a snapshot. -/
structure Manifest where
  bytes : Nat
  dimension : UInt64
  formatVersion : UInt32
  recordCount : Nat
  savedAt : Nat

/-- The text of a manifest: a JSON object, its members in lines and in the order of their names. -/
def Manifest.render (m : Manifest) : String :=
  "\x7b\n" ++ s!"  \"bytes\": {m.bytes},\n"
    ++ s!"  \"dimension\": {m.dimension},\n"
    ++ s!"  \"format_version\": {m.formatVersion},\n"
    ++ s!"  \"record_count\": {m.recordCount},\n"
    ++ s!"  \"saved_at_ms\": {m.savedAt}\n" ++ "\x7d"

namespace DataDir

/-- The name of the snapshot. -/
def snapshotName : String := "vectors.snap"

/-- The path of the snapshot. -/
def snapshotPath (dir : String) : String :=
  Path.inside dir snapshotName

/-- The path of a snapshot that is being written. -/
def partialPath (dir : String) : String :=
  Path.inside dir "vectors.snap.tmp"

/-- The path of the manifest. -/
def manifestPath (dir : String) : String :=
  Path.inside dir "manifest.json"

/-- The manifest of an image that is saved now. -/
def manifest (image : Snapshot.Image) (now : Nat) : Manifest where
  bytes := image.bytes.length
  dimension := image.store.dimension
  formatVersion := Snapshot.version
  recordCount := image.size
  savedAt := now

/-- The steps of a save, in their order. -/
def saveSteps (dir : String) (image : Snapshot.Image) (now : Nat) : List FileStep :=
  [.create (partialPath dir), .write (partialPath dir) image.bytes, .sync (partialPath dir),
    .rename (partialPath dir) (snapshotPath dir),
    .replace (manifestPath dir) (Bytes.ofText (manifest image now).render)]

variable {m : Type → Type} [Monad m]

/-- Makes a data directory where it is missing. -/
def ensure (host : Host m) (dir : String) : m (Except Fault Unit) := do
  return (← host.makeDirs dir).mapError .file

/-- Saves an image. -/
def save (host : Host m) (dir : String) (image : Snapshot.Image) : m (Except Fault SaveStats) := do
  let now ← host.now
  match ← host.performAll (saveSteps dir image now) with
  | .ok () => return .ok { records := image.size, bytes := image.bytes.length }
  | .error e => return .error (.file e)

/-- The snapshot file, if there is one. -/
def snapshotFile (host : Host m) (dir : String) : m (Except Fault (Option Bytes)) := do
  if ← host.present (snapshotPath dir) then
    match ← host.read (snapshotPath dir) with
    | .ok file => return .ok (some file)
    | .error e => return .error (.file e)
  else return .ok none

/-- The shard with these settings that a data directory holds. Settings that cannot be used are
found before the directory is looked at. -/
def load (host : Host m) (dir : String) (settings : Settings) : m (Except Fault Shard) := do
  match Shard.new settings with
  | .error e => return .error e
  | .ok _ =>
    match ← snapshotFile host dir with
    | .error e => return .error e
    | .ok file => return Shard.load settings (← host.now) file

end DataDir

end Nearest
