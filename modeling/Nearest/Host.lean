import Nearest.Fault
import Nearest.Path

/-!
# The host

What the library needs of the machine it runs on: files, the time, and something to draw random
numbers from. It is handed in as a `Host m`, with operations in a monad `m`, so that the same code
runs on a real machine and on the model of one in `Nearest.Disk`.

Changes to files are described as steps, each of which a machine does or fails to do as a whole.
A machine makes one directory at a time; `Host.makeDirs` makes a directory with all that are missing
above it.
-/

namespace Nearest

/-- One change to the files of a machine. -/
inductive FileStep
  /-- Makes an empty file, or empties the one that is there. -/
  | create (path : String)
  /-- Writes the content of a file that has been made. -/
  | write (path : String) (content : Bytes)
  /-- Waits until a file is safe on the disk. -/
  | sync (path : String)
  /-- Gives a file another name, in the place of a file that has it. -/
  | rename (source target : String)
  /-- Makes a file with this content, in the place of one that is there. -/
  | replace (path : String) (content : Bytes)

/-- A machine. -/
structure Host (m : Type → Type) where
  /-- The content of a file. -/
  read : String → m (Except FileFault Bytes)
  /-- Whether there is anything at a path. -/
  present : String → m Bool
  /-- Whether there is a directory at a path. -/
  isDirectory : String → m Bool
  /-- Makes a directory in one that is there. -/
  makeDir : String → m (Except FileFault Unit)
  /-- Makes a change. -/
  perform : FileStep → m (Except FileFault Unit)
  /-- The time, in milliseconds since the epoch. -/
  now : m Nat
  /-- A count of nanoseconds that only grows. -/
  ticks : m Nat
  /-- A source of random numbers. -/
  random : m StdGen

namespace Host

variable {m : Type → Type} [Monad m]

/-- Makes changes one after the other, up to the first that fails. -/
def performAll (host : Host m) : List FileStep → m (Except FileFault Unit)
  | [] => pure (.ok ())
  | step :: steps => do
    match ← host.perform step with
    | .ok () => host.performAll steps
    | .error e => return .error e

/-- Makes a directory, or leaves the one that is there. -/
def ensureDir (host : Host m) (path : String) : m (Except FileFault Unit) := do
  match ← host.makeDir path with
  | .error .exists => return if ← host.isDirectory path then .ok () else .error .exists
  | result => return result

/-- Makes the first of these directories, from the lowest up, for which the way is there. Answers
those that are still missing, from the top. -/
def makeLowest (host : Host m) (missing : List String) :
    List String → m (Except FileFault (List String))
  | [] => pure (.ok missing)
  | path :: above => do
    match ← host.ensureDir path with
    | .ok () => return .ok missing
    | .error .notFound => host.makeLowest (path :: missing) above
    | .error e => return .error e

/-- Makes directories one after the other, up to the first that cannot be made. -/
def ensureDirs (host : Host m) : List String → m (Except FileFault Unit)
  | [] => pure (.ok ())
  | path :: paths => do
    match ← host.ensureDir path with
    | .ok () => host.ensureDirs paths
    | .error e => return .error e

/-- Makes a directory, with the directories above it, where they are missing. What has been made
before a failure stays. -/
def makeDirs (host : Host m) (path : String) : m (Except FileFault Unit) := do
  if path = "" then return .ok ()
  match ← host.ensureDir path with
  | .error .notFound =>
    match ← host.makeLowest [path] (Path.above path) with
    | .ok missing => host.ensureDirs missing
    | .error e => return .error e
  | result => return result

end Host

end Nearest
