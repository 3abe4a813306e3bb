import Nearest.Fault
import Nearest.Number.Numeral
import Nearest.Settings
import Nearest.Similarity

/-!
# Vector records

A record is the vector that a key holds: its components as 32-bit patterns, so that it gives back
the bytes it was made of (`Record.bytes`). The constructors that take outside data check the length:
`Record.ofBytes`, `Record.ofComponents`, `Record.ofDeclared`.
-/

namespace Nearest

/-- A vector, as the patterns of its components. -/
structure Record where
  components : List UInt32
  deriving DecidableEq

namespace Record

/-- How many components a record has. -/
def dimension (r : Record) : Nat :=
  r.components.length

/-- The payload that a record is made of. -/
def bytes (r : Record) : Bytes :=
  Bytes.ofWords32 r.components

/-- The Euclidean length of a record. -/
def norm (r : Record) : Float :=
  Similarity.norm r.components

/-- The record with this payload, whose length has to be that of one vector. -/
def ofBytes (payload : Bytes) (dimension : UInt64) : Except Fault Record :=
  if payload.length = (Settings.vectorBytes dimension).toNat then .ok ⟨Bytes.words32 payload⟩
  else .error (.vectorSize dimension (UInt64.ofNat payload.length))

/-- The record with these components, as many as the dimension asks for. -/
def ofComponents (components : List UInt32) (dimension : UInt64) : Except Fault Record :=
  if components.length = dimension.toNat then .ok ⟨components⟩
  else .error (.vectorSize dimension (UInt64.ofNat components.length * 4))

/-- The record with this payload, under a declared dimension that has to be the configured one. -/
def ofDeclared (declared : UInt32) (payload : Bytes) (dimension : UInt64) : Except Fault Record :=
  if declared.toUInt64 = dimension then ofBytes payload dimension
  else .error (.corrupt (.dimension declared dimension))

/-- The component that one part of a list of numbers writes, blanks around it aside. -/
def componentOfText (part : List Char) : Except Fault UInt32 :=
  match Numeral.binary32? (Text.trim part) with
  | some w => .ok w
  | none => .error (.argument (.number (String.ofList part)))

/-- The components that a list of numbers writes, with commas between them; the first part that is
no number is at fault. Their count is checked when they become a record. -/
def componentsOfText (text : String) : Except Fault (List UInt32) :=
  (text.toList.splitOn ',').mapM componentOfText

end Record

end Nearest
