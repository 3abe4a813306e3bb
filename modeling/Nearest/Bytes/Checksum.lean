import Nearest.Bytes.Basic

/-!
# The checksum that seals a frame

CRC-32 with the reflected polynomial `0xedb88320`, as a shift register that takes one byte at a
time. A sealed frame is the frame followed by the four bytes of its checksum.

* `Checksum.absorb` is one byte's step of the register, `Checksum.sum` the checksum of a byte
  string;
* `Checksum.sealed` appends the checksum;
* `Checksum.Sealer` does the same for a frame that arrives in pieces.

Opening a sealed frame can fail and is in `Nearest.Bytes.Frame`.
-/

namespace Nearest.Checksum

/-- The reflected generator polynomial. -/
def polynomial : UInt32 := 0xedb88320

/-- One bit's step: shift right, and subtract the polynomial if a one fell out. -/
def shift (r : UInt32) : UInt32 :=
  if r &&& 1 = 1 then (r >>> 1) ^^^ polynomial else r >>> 1

/-- One byte's step of the register. -/
def absorb (r : UInt32) (b : UInt8) : UInt32 :=
  shift <| shift <| shift <| shift <| shift <| shift <| shift <| shift (r ^^^ b.toUInt32)

/-- The register before the first byte. -/
def start : UInt32 := 0xffffffff

/-- The register after a byte string. -/
def register (r : UInt32) (b : Bytes) : UInt32 :=
  b.foldl absorb r

/-- The checksum that a register stands for. -/
def finish (r : UInt32) : UInt32 :=
  ~~~r

/-- The checksum of a byte string. -/
def sum (b : Bytes) : UInt32 :=
  finish (register start b)

/-- A frame followed by its checksum. -/
def sealed (frame : Bytes) : Bytes :=
  frame ++ Bytes.ofWord32 (sum frame)

/-- A frame that is being written in pieces: what the sink has accepted so far, the register over it
and its length. -/
structure Sealer where
  written : Bytes := []
  register : UInt32 := start
  count : UInt64 := 0

namespace Sealer

/-- The sink accepts these bytes: exactly they are passed on, summed and counted. -/
def accept (s : Sealer) (b : Bytes) : Sealer where
  written := s.written ++ b
  register := Checksum.register s.register b
  count := s.count + UInt64.ofNat b.length

/-- Writes the checksum after the frame; the bytes in the sink and how many they are. -/
def close (s : Sealer) : Bytes × UInt64 :=
  (s.written ++ Bytes.ofWord32 (finish s.register), s.count + 4)

end Sealer

@[simp] theorem register_nil (r : UInt32) : register r [] = r := rfl

theorem register_append (r : UInt32) (a b : Bytes) :
    register r (a ++ b) = register (register r a) b := by
  simp [register]

@[simp] theorem length_sealed (frame : Bytes) : (sealed frame).length = frame.length + 4 := by
  simp [sealed]

end Nearest.Checksum
