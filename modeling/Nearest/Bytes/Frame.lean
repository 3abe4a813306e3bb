import Nearest.Bytes.Checksum
import Nearest.Fault

/-!
# Opening a sealed frame

`Checksum.unsealed` verifies the checksum at the end of a sealed frame and answers the frame. It
undoes `Checksum.sealed` (`unsealed_sealed`).
-/

namespace Nearest.Checksum

/-- The checksum that the last four bytes declare. -/
def declared : Bytes → UInt32
  | [a, b, c, d] => Bytes.word32 a b c d
  | _ => 0

/-- The frame under a checksum, once that is verified. -/
def unsealed (b : Bytes) : Except Fault Bytes :=
  if b.length < 4 then .error (.corrupt (.tooShort b.length))
  else
    let frame := b.take (b.length - 4)
    let expected := declared (b.drop (b.length - 4))
    let actual := sum frame
    if actual = expected then .ok frame
    else .error (.corrupt (.checksum expected actual))

theorem declared_ofWord32 (w : UInt32) : declared (Bytes.ofWord32 w) = w := by
  apply UInt32.toNat_inj.1
  have := w.toNat_lt
  simp [Bytes.ofWord32, declared, Bytes.word32]
  omega

theorem unsealed_sealed (frame : Bytes) : unsealed (sealed frame) = .ok frame := by
  have h : (sealed frame).length - 4 = frame.length := by simp
  simp only [unsealed, h]
  simp [sealed, declared_ofWord32]

end Nearest.Checksum
