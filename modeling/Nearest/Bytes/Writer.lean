import Nearest.Bytes.Checksum

/-!
# Writing in parts

A writer may accept less than it is offered: of the bytes that are offered in one call it takes any
part, from the first byte on, that is not empty. What is left has to be offered again.

* `Writer` is anything that takes bytes in this way, and `Writer.writeAll` offers bytes until all of
  them are accepted (`Writer.content_writeAll`).
* `Checksum.Sealing` stands before a writer: it passes bytes on, and sums and counts those that are
  accepted. It is a writer as well (`Sealing.writer`). `Sealing.finish` writes the checksum.
-/

namespace Nearest

/-- Something that takes bytes, with a state of its own. -/
structure Writer (σ : Type) where
  /-- What has been written. -/
  content : σ → Bytes
  /-- Offers bytes; how many of them are accepted, and the state then. -/
  write : σ → Bytes → Nat × σ
  write_le : ∀ w b, (write w b).1 ≤ b.length
  write_pos : ∀ w b, b ≠ [] → 0 < (write w b).1
  content_write : ∀ w b, content (write w b).2 = content w ++ b.take (write w b).1

namespace Writer

variable {σ : Type}

theorem length_drop_write_lt (W : Writer σ) (w : σ) {b : Bytes} (h : b ≠ []) :
    (b.drop (W.write w b).1).length < b.length := by
  have hpos := W.write_pos w b h
  have hlength := List.length_pos_iff.2 h
  rw [List.length_drop]
  omega

/-- Offers bytes, and what is left of them again, until all are accepted. -/
def writeAll (W : Writer σ) (w : σ) (b : Bytes) : σ :=
  if _ : b = [] then w
  else W.writeAll (W.write w b).2 (b.drop (W.write w b).1)
termination_by b.length
decreasing_by exact W.length_drop_write_lt w ‹_›

theorem content_writeAll (W : Writer σ) (w : σ) (b : Bytes) :
    W.content (W.writeAll w b) = W.content w ++ b := by
  fun_induction W.writeAll w b with
  | case1 w => rw [List.append_nil]
  | case2 w b hb ih =>
    rw [ih, W.content_write, List.append_assoc, List.take_append_drop]

/-- Bytes in memory, which take all that they are offered. -/
def collecting : Writer Bytes where
  content w := w
  write w b := (b.length, w ++ b)
  write_le _ _ := Nat.le_refl _
  write_pos _ _ := List.length_pos_iff.2
  content_write w b := by rw [List.take_length]

/-- Bytes in memory, with the number of calls that there have been. In the call with number `i` at
most `limit i + 1` bytes are accepted. -/
def inParts (limit : Nat → Nat) : Writer (Bytes × Nat) where
  content w := w.1
  write w b := (min (limit w.2 + 1) b.length, w.1 ++ b.take (limit w.2 + 1), w.2 + 1)
  write_le _ _ := Nat.min_le_right _ _
  write_pos w b h := by
    have hlength := List.length_pos_iff.2 h
    simp only
    omega
  content_write w b := by simp only [← List.take_eq_take_min]

end Writer

namespace Checksum

/-- A writer that bytes are passed on to, and the sealer that sums and counts those that are
accepted. -/
structure Sealing (σ : Type) where
  inner : σ
  sealer : Sealer := {}

namespace Sealing

variable {σ : Type}

/-- Offers bytes to the writer behind; exactly what it accepts is summed and counted. -/
def write (W : Writer σ) (s : Sealing σ) (b : Bytes) : Nat × Sealing σ :=
  let (n, inner) := W.write s.inner b
  (n, { inner, sealer := s.sealer.accept (b.take n) })

/-- Bytes can be written here as to the writer behind. -/
def writer (W : Writer σ) : Writer (Sealing σ) where
  content s := W.content s.inner
  write := write W
  write_le s b := W.write_le s.inner b
  write_pos s b := W.write_pos s.inner b
  content_write s b := W.content_write s.inner b

/-- Writes the checksum; the writer behind, and how many bytes it has accepted. -/
def finish (W : Writer σ) (s : Sealing σ) : σ × UInt64 :=
  (W.writeAll s.inner (Bytes.ofWord32 (Checksum.finish s.sealer.register)), s.sealer.count + 4)

end Sealing

end Checksum

end Nearest
