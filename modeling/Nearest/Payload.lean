import Nearest.Bytes.Frame
import Nearest.Record

/-!
# Vectors on the move

A payload carries one vector from a keyspace to another: a type tag, the version of the encoding,
the dimension and the components, sealed with a checksum. `Payload.encode` makes one,
`Payload.decode` reads one for a given dimension.
-/

namespace Nearest.Payload

/-- The tag that marks the payload of a vector. -/
def typeTag : String := "vecsim-vf"

/-- The version of the encoding. -/
def version : UInt32 := 1

/-- The fields of a payload. -/
structure Frame where
  tag : String
  version : UInt32
  dimension : UInt32
  data : Bytes
  deriving DecidableEq

namespace Frame

/-- The bytes of a frame. -/
def bytes (f : Frame) : Bytes :=
  Field.ofText f.tag ++ Bytes.ofWord32 f.version ++ Bytes.ofWord32 f.dimension
    ++ Field.ofBlob f.data

/-- Reads a frame; what comes after it is left. -/
def read : Field.Reader Frame := fun b => do
  let (tag, b) ← Field.text b
  let (version, b) ← Field.word32 b
  let (dimension, b) ← Field.word32 b
  let (data, b) ← Field.blob b
  return ({ tag, version, dimension, data }, b)

end Frame

/-- The payload of a record. -/
def encode (r : Record) : Bytes :=
  Checksum.sealed <| Frame.bytes
    { tag := typeTag, version, dimension := UInt32.ofNat r.dimension, data := r.bytes }

/-- The record in a frame, which has to be of this kind, of a version up to ours and of the given
dimension. -/
def ofFrame (f : Frame) (dimension : UInt64) : Except Fault Record :=
  if f.tag ≠ typeTag then .error (.corrupt (.typeTag f.tag))
  else if version < f.version then .error (.corrupt (.encodingVersion f.version))
  else Record.ofDeclared f.dimension f.data dimension

/-- The record in a payload. Bytes between the frame and the checksum are not looked at. -/
def decode (payload : Bytes) (dimension : UInt64) : Except Fault Record := do
  let body ← Checksum.unsealed payload
  match Frame.read body with
  | .ok (f, _) => ofFrame f dimension
  | .error why => throw (.corrupt (.frame why))

end Nearest.Payload
