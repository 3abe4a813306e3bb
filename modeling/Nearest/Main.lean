import Std.Time.DateTime.Timestamp
import Nearest.CommandLine.Run

/-!
# The program

Runs the command line on the machine itself: `realHost` does to real files what the library asks
for, and `main` prints what a run comes to.
-/

namespace Nearest

/-- The fault with this number, which the machine may give with a minus sign. -/
def faultOfNumber (code : UInt32) (words : String) : FileFault :=
  match (if code < 0x80000000 then code else -code).toNat with
  | 2 => .notFound
  | 17 => .exists
  | 20 => .notDirectory
  | 21 => .isDirectory
  | 36 => .nameTooLong
  | n => .other n words

/-- The fault that an error stands for. -/
def faultOf (e : IO.Error) : FileFault :=
  match e with
  | .alreadyExists _ code words | .invalidArgument _ code words | .permissionDenied _ code words
  | .resourceExhausted _ code words | .inappropriateType _ code words
  | .noSuchThing _ code words | .interrupted _ code words | .noFileOrDirectory _ code words =>
    faultOfNumber code words
  | .otherError code words | .resourceBusy code words | .resourceVanished code words
  | .unsupportedOperation code words | .hardwareFault code words
  | .unsatisfiedConstraints code words | .illegalOperation code words
  | .protocolError code words | .timeExpired code words => faultOfNumber code words
  | .unexpectedEof => .other 0 "unexpected end of file"
  | .userError words => .other 0 words

/-- Does something to the file at a path and answers its fault. -/
def tried {α : Type} (path : String) (run : IO α) : IO (Except FileFault α) := do
  if path.toList.contains '\x00' then return .error .nulInName
  match ← run.toBaseIO with
  | .ok a => return .ok a
  | .error e => return .error (faultOf e)

/-- The content of a real file. -/
def readReal (path : String) : IO (Except FileFault Bytes) :=
  tried path do return (← IO.FS.readBinFile path).data.toList

/-- Writes a real file, in the place of one that is there. -/
def writeReal (path : String) (content : Bytes) : IO (Except FileFault Unit) :=
  tried path (IO.FS.writeBinFile path ⟨content.toArray⟩)

/-- Makes a change to real files. -/
def performReal : FileStep → IO (Except FileFault Unit)
  | .create path => writeReal path []
  | .write path content => writeReal path content
  | .sync path => tried path do (← IO.FS.Handle.mk path .append).flush
  | .rename source target => tried source (IO.FS.rename source target)
  | .replace path content => writeReal path content

/-- The machine that the program runs on. -/
def realHost : Host IO where
  read := readReal
  present path := do
    match ← readReal path with
    | .error .notFound | .error .notDirectory | .error .nameTooLong | .error .nulInName =>
      return false
    | _ => return true
  isDirectory path := do
    match ← readReal path with
    | .error .isDirectory => return true
    | _ => return false
  makeDir path := tried path (IO.FS.createDir path)
  perform := performReal
  now := do return (← Std.Time.Timestamp.now).toMillisecondsSinceUnixEpoch.val.toNat
  ticks := IO.monoNanosNow
  random := do
    let bytes ← IO.getRandomBytes 8
    return mkStdGen (bytes.data.toList.foldl (fun n b => 256 * n + b.toNat) 0)

/-- The variables of the environment that options may come from. -/
def environment : IO (List (String × String)) := do
  ["VECSIM_DATA_DIR", "VECSIM_DIMENSION"].filterMapM fun name => do
    return (← IO.getEnv name).map (name, ·)

end Nearest

/-- Runs the command line. -/
def main (args : List String) : IO UInt32 := do
  let outcome ← Nearest.CommandLine.run Nearest.realHost (← Nearest.environment) args
  IO.print outcome.stdout
  IO.eprint outcome.stderr
  return outcome.code.toUInt32
