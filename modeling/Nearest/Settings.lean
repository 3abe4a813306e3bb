import Nearest.Fault
import Nearest.Json.Scan

/-!
# Settings

The dimension of the vectors, the number of resident vectors from which a search runs in parallel,
and the directory of the snapshot. `Settings.check` says which are usable, `Settings.ofJson` reads
them from a file's text.
-/

namespace Nearest

/-- The settings of one shard. The dimension never changes while a shard lives. -/
structure Settings where
  /-- How many components a vector has. -/
  dimension : UInt64 := 128
  /-- From how many resident vectors on a search runs in parallel. -/
  parallelThreshold : UInt64 := 65536
  /-- The directory of the snapshot. -/
  dataDir : String := "data"
  deriving DecidableEq

namespace Settings

/-- The bytes of one vector: four for each component, as a word. -/
def vectorBytes (dimension : UInt64) : UInt64 :=
  dimension * 4

/-- Whether settings are usable, and if not, why. -/
def check (s : Settings) : Except Fault Unit :=
  if s.dimension = 0 then .error (.settings .zeroDimension)
  else if s.parallelThreshold = 0 then .error (.settings .zeroThreshold)
  else .ok ()

/-! ## Settings in a file

Settings are a JSON object, of which missing members keep their defaults and unknown ones are passed
over, or a JSON list of the values in their order, which may end early. -/

open Json (Cursor Reader)

/-- The kind of value that holds settings, as a report names it. -/
def jsonKind : String := "struct StoreConfig"

/-- Which members of an object have been read. -/
structure Members where
  dimension : Option UInt64 := none
  parallelThreshold : Option UInt64 := none
  dataDir : Option String := none

namespace Members

/-- The settings with these members. -/
def settings (m : Members) : Settings where
  dimension := m.dimension.getD 128
  parallelThreshold := m.parallelThreshold.getD 65536
  dataDir := m.dataDir.getD "data"

end Members

/-- A colon between a key and its value. -/
def colon (c : Cursor) : Except Json.Fault Cursor :=
  let c := c.skipBlanks
  match c.peek? with
  | none => .error (c.faultAtNext .endInObject)
  | some 0x3a => .ok c.next
  | some _ => .error (c.faultAtNext .colonExpected)

/-- The fault of a member that comes a second time; a brace after it is passed first. -/
def duplicate (name : String) (c : Cursor) : Json.Fault :=
  let c := c.skipBlanks
  (if c.peek? == some 0x7d then c.next else c).fault (.duplicateField name)

/-- Reads the value of the member with this name. -/
def memberValue (name : String) (m : Members) : Reader Members := fun c =>
  if name = "dimension" then
    if m.dimension.isSome then .error (duplicate name c)
    else do
      let (n, c) ← Json.unsigned "usize" (← colon c)
      return ({ m with dimension := some n }, c)
  else if name = "parallel_scan_threshold" then
    if m.parallelThreshold.isSome then .error (duplicate name c)
    else do
      let (n, c) ← Json.unsigned "usize" (← colon c)
      return ({ m with parallelThreshold := some n }, c)
  else if name = "data_dir" then
    if m.dataDir.isSome then .error (duplicate name c)
    else do
      let (s, c) ← Json.text "path string" (← colon c)
      return ({ m with dataDir := some s }, c)
  else do
    let ((), c) ← Json.skipValue (← colon c)
    return (m, c)

/-- Reads the members of an object up to its brace, one for each unit of `fuel`. -/
def members : Nat → Bool → Members → Reader Members
  | 0, _, _, c => .error (c.fault .endInObject)
  | fuel + 1, first, m, c => do
    let c := c.skipBlanks
    match c.peek? with
    | none => throw (c.faultAtNext .endInObject)
    | some 0x7d => return (m, c.next)
    | some b =>
      if !first && b ≠ 0x2c then throw (c.faultAtNext .objectCommaExpected)
      let c := if first then c else c.next.skipBlanks
      match c.peek? with
      | none => throw (c.faultAtNext .endInValue)
      | some 0x22 =>
        let (name, c) ← Json.string c.next
        let (m, c) ← memberValue name m c
        members fuel false m c
      | some 0x7d => throw (c.faultAtNext .trailingComma)
      | some _ => throw (c.faultAtNext .keyNotString)

/-- Reads the next value of a list, if there is one. -/
def element {α : Type} (first : Bool) (value : Reader α) : Reader (Option α) := fun c => do
  let c := c.skipBlanks
  match c.peek? with
  | none => throw (c.faultAtNext .endInList)
  | some 0x5d => return (none, c)
  | some b =>
    if !first && b ≠ 0x2c then throw (c.faultAtNext .listCommaExpected)
    let c := if first then c else c.next.skipBlanks
    match c.peek? with
    | none => throw (c.faultAtNext .endInValue)
    | some 0x5d => throw (c.faultAtNext .trailingComma)
    | some _ =>
      let (a, c) ← value c
      return (some a, c)

/-- Passes the bracket that ends a list. -/
def endOfList (c : Cursor) : Except Json.Fault Cursor :=
  let c := c.skipBlanks
  match c.peek? with
  | none => .error (c.faultAtNext .endInList)
  | some 0x5d => .ok c.next
  | some 0x2c =>
    let c := c.next.skipBlanks
    if c.peek? == some 0x5d then .error (c.faultAtNext .trailingComma)
    else .error (c.faultAtNext .trailingCharacters)
  | some _ => .error (c.faultAtNext .trailingCharacters)

/-- Reads the values of a list after its bracket. -/
def elements : Reader Members := fun c => do
  let (dimension, c) ← element true (Json.unsigned "usize") c
  let (parallelThreshold, c) ← element false (Json.unsigned "usize") c
  let (dataDir, c) ← element false (Json.text "path string") c
  return ({ dimension, parallelThreshold, dataDir }, ← endOfList c)

/-- The settings that a JSON text holds, not yet checked. -/
def ofJson (text : Bytes) : Except Json.Fault Settings := do
  let c := Cursor.skipBlanks { rest := text }
  let (m, c) ← match c.peek? with
    | none => throw (c.faultAtNext .endInValue)
    | some 0x5b => elements c.next
    | some 0x7b => members (c.rest.length + 1) true {} c.next
    | some _ => throw (Json.unwanted jsonKind c)
  let c := c.skipBlanks
  if c.peek?.isSome then throw (c.faultAtNext .trailingCharacters)
  return m.settings

/-- The usable settings in the file at `path` with this content. -/
def ofFile (path : String) (content : Bytes) : Except Fault Settings :=
  match ofJson content with
  | .error why => .error (.settings (.unreadable path why))
  | .ok s =>
    match s.check with
    | .ok () => .ok s
    | .error e => .error e

end Settings

end Nearest
