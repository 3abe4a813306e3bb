import Nearest.CommandLine.Help
import Nearest.DataDir
import Nearest.Number.Fixed
import Nearest.Tally

/-!
# Runs of the command line

A run loads the shard of its data directory, does what the arguments ask for, and saves the shard if
that may have changed it. `CommandLine.run` does all this on a host and answers the exit code and
what is printed. A search and a count save nothing.
-/

namespace Nearest.CommandLine

/-- What a run comes to. -/
structure Outcome where
  code : UInt8
  stdout : String := ""
  stderr : String := ""

/-- A fault of a run, with what was being done. -/
structure Failure where
  doing : Option String := none
  fault : Fault

namespace Failure

/-- The fault and what is behind it, the outermost first. -/
def chain (f : Failure) : List String :=
  let behind := match f.fault with
    | .file why => [why.message]
    | _ => []
  f.doing.toList ++ f.fault.message :: behind

/-- The lines of one cause under a heading; the first line of it after `lead`, the others as far
in. -/
def indented (lead : String) (cause : String) : String :=
  let indent := String.ofList (List.replicate lead.length ' ')
  lead ++ ("\n" ++ indent).intercalate (cause.splitOn "\n")

/-- The causes, numbered if there are several. -/
def causes : List String → List String
  | [cause] => [indented "    " cause]
  | causes =>
    causes.zipIdx.map fun (cause, i) =>
      let number := toString i
      indented (String.ofList (List.replicate (5 - number.length) ' ') ++ number ++ ": ") cause

/-- The report of a failure. -/
def report (f : Failure) : String :=
  match f.chain with
  | [] => ""
  | [only] => "Error: " ++ only ++ "\n"
  | top :: behind =>
    "Error: " ++ top ++ "\n\nCaused by:\n" ++ "\n".intercalate (causes behind) ++ "\n"

end Failure

/-! ## Random vectors -/

/-- A number from zero to below one, of 24 bits. -/
def randomComponent (g : StdGen) : UInt32 × StdGen :=
  let (n, g) := randNat g 0 0xffffff
  (if n = 0 then 0 else Binary32.nearest n 0x1000000, g)

/-- A vector of such numbers, in front of others already drawn. -/
def randomVector : Nat → List UInt32 → StdGen → List UInt32 × StdGen
  | 0, drawn, g => (drawn, g)
  | n + 1, drawn, g =>
    let (w, g) := randomComponent g
    randomVector n (w :: drawn) g

/-! ## Texts -/

/-- A span of time with two places, in the largest unit in which it is at least one. -/
def spanText (nanoseconds : Nat) : String :=
  let text := fun unit => Fixed.withPoint 2 (roundedQuotient (nanoseconds * 100) unit)
  if 1000000000 ≤ nanoseconds then text 1000000000 ++ "s"
  else if 1000000 ≤ nanoseconds then text 1000000 ++ "ms"
  else if 1000 ≤ nanoseconds then text 1000 ++ "µs"
  else text 1 ++ "ns"

/-- The lines that list the hits of a response. -/
def hitLines (r : Response) : List String :=
  if r.results.isEmpty then ["No results found"]
  else
    s!"Top {r.results.length} results:" ::
      r.results.zipIdx.map fun (h, i) =>
        s!"{i + 1}. {h.key} (score: {Fixed.render 6 h.score.pattern})"

/-- Lines, each with its end. -/
def ofLines (lines : List String) : String :=
  String.join (lines.map (· ++ "\n"))

/-! ## Actions -/

section

variable {m : Type → Type} [Monad m]

/-- A part of a run, which may fail. -/
abbrev Part (m : Type → Type) := ExceptT Failure m

/-- Does something that may have a fault. -/
def attempt {α : Type} (doing : Option String) (run : m (Except Fault α)) : Part m α :=
  ExceptT.mk do return (← run).mapError fun fault => { doing, fault }

/-- Takes the value of something that may have a fault. -/
def taken {α : Type} (result : Except Fault α) : Part m α :=
  ExceptT.mk (pure (result.mapError fun fault => { fault }))

/-- Binds random vectors to the keys `stem` with the numbers from `i` on. -/
def seedKeys (stem : String) : Nat → Nat → StdGen → Shard → Except Fault Shard
  | 0, _, _, s => .ok s
  | left + 1, i, g, s => do
    let (v, g) := randomVector s.dimension.toNat [] g
    seedKeys stem left (i + 1) g (← s.add (stem ++ toString i) (Bytes.ofWords32 v))

/-- Saves a shard. -/
def saveShard (host : Host m) (dir : String) (now : Nat) (s : Shard) : Part m SaveStats :=
  attempt none (DataDir.save host dir (s.image now).1)

/-- The vector to search for. -/
def queryVector (host : Host m) (dimension : UInt64) : Option String → Part m (List UInt32)
  | some text => taken (Record.componentsOfText text)
  | none => do
    let g ← (host.random : m StdGen)
    return (randomVector dimension.toNat [] g).1

/-- Does an action on a shard at one moment, and answers what to print. -/
def act (host : Host m) (dir : String) (now : Nat) (s : Shard) : Action → Part m (List String)
  | .seed count _ stem => do
    let start ← (host.ticks : m Nat)
    let g ← (host.random : m StdGen)
    let s ← taken (seedKeys stem count.toNat 0 g s)
    let stats ← saveShard host dir now s
    let stop ← (host.ticks : m Nat)
    return [s!"Inserted {count} vectors in {spanText (stop - start)} ({stats.records} resident, " ++
      s!"{stats.bytes} bytes on disk)"]
  | .query k filter vector => do
    let query ← queryVector host s.dimension vector
    let start ← (host.ticks : m Nat)
    let response ← taken (s.search now k filter (Bytes.ofWords32 query)).1
    let stop ← (host.ticks : m Nat)
    return hitLines response ++ [s!"Query took {spanText (stop - start)}"]
  | .count => do
    let (_, tally) ← taken (s.report now "local" {})
    return [s!"{tally.total} vectors ({s.keyCount now} keys total)"]
  | .del keys => do
    let (removed, s) := s.delete now keys
    let _ ← saveShard host dir now s
    return [s!"Deleted {removed} of {keys.length} keys"]
  | .flush => do
    let (released, s) := s.flush
    let _ ← saveShard host dir now s
    return [s!"Flushed {released} vectors"]

/-- The settings of a run: those of its file or the defaults, with the arguments before them. -/
def settingsFor (host : Host m) (i : Invocation) : Part m Settings := do
  let base ← match i.config with
    | none => pure {}
    | some path => attempt (some s!"loading config from {path}") do
      match ← host.read path with
      | .error e => return .error (.file e)
      | .ok content => return Settings.ofFile path content
  let settings : Settings := { base with
    dataDir := i.dataDir.getD base.dataDir
    dimension := i.dimension.getD base.dimension }
  taken settings.check
  return settings

/-- Does what an invocation asks for, and answers the lines to print. -/
def perform (host : Host m) (i : Invocation) : Part m (List String) := do
  let settings ← settingsFor host i
  let dir := settings.dataDir
  attempt (some s!"opening data dir {dir}") (DataDir.ensure host dir)
  let s ← attempt (some "loading snapshot") (DataDir.load host dir settings)
  act host dir (← (host.now : m Nat)) s i.action

/-- Runs the program with these arguments. -/
def run (host : Host m) (env : List (String × String)) (args : List String) : m Outcome := do
  match Arguments.parse env args with
  | .error (.help topic) => return { code := 0, stdout := ofLines (topic.lines env) }
  | .error .unusable =>
    return {
      code := 2
      stderr := ofLines ["error: the arguments cannot be used", "",
        "For more information, try '--help'."] }
  | .ok i =>
    match ← (perform host i).run with
    | .ok lines => return { code := 0, stdout := ofLines lines }
    | .error failure => return { code := 1, stderr := failure.report }

end

end Nearest.CommandLine
