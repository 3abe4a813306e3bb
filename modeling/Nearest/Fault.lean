import Nearest.Bytes.Field
import Nearest.Glob.Pattern
import Nearest.Json.Cursor

/-!
# What can go wrong

`Fault` is every way in which an operation of the library can fail, as a cause with its particulars.
The wording of a report is in `Fault.message` alone.
-/

namespace Nearest

/-- Why the machine refused to read or write a file. -/
inductive FileFault
  | notFound
  | exists
  | notDirectory
  | isDirectory
  | nameTooLong
  /-- A name with the character of code zero in it, which no machine can be asked for. -/
  | nulInName
  /-- Another cause, by its number and the machine's words for it. -/
  | other (code : Nat) (words : String)
  deriving DecidableEq

/-- The text that reports a file's fault. -/
def FileFault.message : FileFault → String
  | .notFound => "No such file or directory (os error 2)"
  | .exists => "File exists (os error 17)"
  | .notDirectory => "Not a directory (os error 20)"
  | .isDirectory => "Is a directory (os error 21)"
  | .nameTooLong => "File name too long (os error 36)"
  | .nulInName => "file name contained an unexpected NUL byte"
  | .other code words => s!"{words} (os error {code})"

/-- An argument that cannot be used. -/
inductive Objection
  /-- A search for this many results. -/
  | resultCount (k : Int)
  | emptyFilter
  | filterPattern (pattern : String) (why : Glob.Fault)
  /-- A part of a list of numbers that is no number. -/
  | number (part : String)
  | emptyShardId
  /-- The party that was handed something turned it down. -/
  | refused (reason : String)

/-- The text that reports an objection. -/
def Objection.message : Objection → String
  | .resultCount k => s!"k must be a positive integer, got {k}"
  | .emptyFilter => "key filter must not be empty"
  | .filterPattern pattern why =>
    s!"invalid key filter '{pattern}': error parsing glob '{pattern}': {why.message}"
  | .number part => s!"Invalid float: {part}"
  | .emptyShardId => "shard id must not be empty"
  | .refused reason => reason

/-- A stored or received byte string that is not what it should be. -/
inductive Corruption
  | tooShort (length : Nat)
  | checksum (declared computed : UInt32)
  /-- A field of a payload. -/
  | frame (why : Field.Fault)
  | typeTag (tag : String)
  | encodingVersion (version : UInt32)
  /-- A vector's declared dimension. -/
  | dimension (declared : UInt32) (configured : UInt64)
  /-- A field of a snapshot's header. -/
  | header (why : Field.Fault)
  | notSnapshot
  | formatVersion (version : UInt32)
  /-- A snapshot's declared dimension. -/
  | snapshotDimension (declared : UInt32) (configured : UInt64)
  /-- A field of an entry of a snapshot. -/
  | entry (index : Nat) (why : Field.Fault)
  /-- Bytes after the last entry of a snapshot. -/
  | trailing (count : Nat)
  deriving DecidableEq

/-- Eight hexadecimal digits. -/
def hexWord32 (w : UInt32) : String :=
  let digits := Nat.toDigits 16 w.toNat
  String.ofList (List.replicate (8 - digits.length) '0' ++ digits)

/-- The text that reports a corruption. -/
def Corruption.message : Corruption → String
  | .tooShort length => s!"payload too short ({length} bytes)"
  | .checksum declared computed =>
    s!"checksum mismatch (expected {hexWord32 declared}, got {hexWord32 computed})"
  | .frame why => why.message .atHand
  | .typeTag tag => s!"unexpected type tag '{tag}'"
  | .encodingVersion version => s!"unsupported encoding version {version}"
  | .dimension declared configured =>
    s!"declared dimension {declared} does not match configured dimension {configured}"
  | .header why => s!"snapshot header: {why.message .stream}"
  | .notSnapshot => "not a vector snapshot"
  | .formatVersion version => s!"unsupported snapshot format version {version}"
  | .snapshotDimension declared configured =>
    s!"snapshot dimension {declared} does not match configured dimension {configured}"
  | .entry index why => s!"snapshot entry {index}: {why.message .stream}"
  | .trailing count => s!"{count} trailing bytes after last entry"

/-- Settings that cannot be used. -/
inductive SettingsFault
  | zeroDimension
  | zeroThreshold
  /-- A file that does not hold settings. -/
  | unreadable (path : String) (why : Json.Fault)

/-- The text that reports unusable settings. -/
def SettingsFault.message : SettingsFault → String
  | .zeroDimension => "dimension must be positive"
  | .zeroThreshold => "parallel_scan_threshold must be positive"
  | .unreadable path why => s!"{path}: {why.message}"

/-- Why an operation failed. -/
inductive Fault
  /-- A payload that is not a vector of the configured dimension. -/
  | vectorSize (dimension actualBytes : UInt64)
  | argument (why : Objection)
  | corrupt (why : Corruption)
  /-- A record of a snapshot that cannot be restored under its key. -/
  | corruptRecord (key : String) (why : Fault)
  | busyKey
  | wrongType
  | expireTime
  | settings (why : SettingsFault)
  | file (why : FileFault)

/-- The text that reports a fault. -/
def Fault.message : Fault → String
  | .vectorSize dimension _ => s!"given blob is not a float vector of size {dimension}"
  | .argument why => s!"invalid argument: {why.message}"
  | .corrupt why => s!"corrupt payload: {why.message}"
  | .corruptRecord key why => s!"corrupt payload: key '{key}': {why.message}"
  | .busyKey => "target key name already exists"
  | .wrongType => "operation against a key holding the wrong kind of value"
  | .expireTime => "invalid expire time"
  | .settings why => s!"configuration error: {why.message}"
  | .file why => s!"IO error: {why.message}"

end Nearest
