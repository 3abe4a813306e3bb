import Mathlib.Algebra.Group.Nat.Defs
import Nearest.Bytes.Frame
import Nearest.Bytes.Writer
import Nearest.Snapshot

/-!
# Sealing what is being written

A frame that is written through a `Checksum.Sealing` ends up in the writer behind it followed by its
checksum, as if it had been sealed as a whole. Into which pieces it is cut, and which part of a
piece the writer accepts in each of its calls, makes no difference.

* `Checksum.Sealer.accept_append`: accepting bytes part by part is accepting them at once.
* `Checksum.Sealing.sealer_writeAll`: so however a piece is accepted, it is summed and counted once.
* `Checksum.Sealing.finish_eq_sealed`: what comes of all pieces and the checksum.
* `Snapshot.Image.finish_eq_bytes`: a snapshot may be written in pieces.
-/

namespace Nearest

namespace Checksum

/-! ## What is summed and counted -/

namespace Sealer

theorem accept_nil (s : Sealer) : s.accept [] = s := by
  cases s
  simp [accept]

theorem accept_append (s : Sealer) (a b : Bytes) :
    s.accept (a ++ b) = (s.accept a).accept b := by
  simp [accept, register_append, UInt64.ofNat_add, UInt64.add_assoc]

theorem foldl_accept (s : Sealer) (chunks : List Bytes) :
    chunks.foldl accept s = s.accept chunks.flatten := by
  induction chunks generalizing s with
  | nil => exact s.accept_nil.symm
  | cons b chunks ih => rw [List.foldl_cons, ih, List.flatten_cons, accept_append]

/-- A sealer that has accepted a frame leaves it sealed. -/
theorem close_accept (frame : Bytes) :
    (({} : Sealer).accept frame).close = (sealed frame, UInt64.ofNat (sealed frame).length) := by
  simp [accept, close, sealed, sum, UInt64.ofNat_add]

end Sealer

/-! ## Passing bytes on -/

namespace Sealing

variable {σ : Type} (W : Writer σ)

/-- Whatever the writer accepts in each call, in the end all bytes are summed and counted. -/
theorem sealer_writeAll (s : Sealing σ) (b : Bytes) :
    ((writer W).writeAll s b).sealer = s.sealer.accept b := by
  fun_induction (writer W).writeAll s b with
  | case1 s => exact s.sealer.accept_nil.symm
  | case2 s b _ ih =>
    rw [ih]
    change (s.sealer.accept (b.take (W.write s.inner b).1)).accept
      (b.drop (W.write s.inner b).1) = _
    rw [← Sealer.accept_append, List.take_append_drop]

theorem content_writeAll (s : Sealing σ) (b : Bytes) :
    W.content ((writer W).writeAll s b).inner = W.content s.inner ++ b :=
  (writer W).content_writeAll s b

/-- All pieces are passed on, one after the other. -/
theorem foldl_writeAll (s : Sealing σ) (chunks : List Bytes) :
    W.content (chunks.foldl (writer W).writeAll s).inner =
        W.content s.inner ++ chunks.flatten ∧
      (chunks.foldl (writer W).writeAll s).sealer = s.sealer.accept chunks.flatten := by
  induction chunks generalizing s with
  | nil => exact ⟨(List.append_nil _).symm, s.sealer.accept_nil.symm⟩
  | cons b chunks ih =>
    obtain ⟨hcontent, hsealer⟩ := ih ((writer W).writeAll s b)
    rw [List.foldl_cons, hcontent, hsealer, content_writeAll, sealer_writeAll, List.flatten_cons,
      List.append_assoc, Sealer.accept_append]
    exact ⟨rfl, rfl⟩

/-- The checksum is written after what the sealer has seen. -/
theorem finish_eq_close {s : Sealing σ} {before : Bytes}
    (h : W.content s.inner = before ++ s.sealer.written) :
    W.content (s.finish W).1 = before ++ s.sealer.close.1 ∧
      (s.finish W).2 = s.sealer.close.2 := by
  refine ⟨?_, rfl⟩
  rw [finish, W.content_writeAll, h, List.append_assoc]
  rfl

/-- What has been written in the end, and how much of it. -/
theorem finish_foldl_writeAll (w : σ) (chunks : List Bytes) :
    W.content ((chunks.foldl (writer W).writeAll { inner := w }).finish W).1 =
        W.content w ++ sealed chunks.flatten ∧
      ((chunks.foldl (writer W).writeAll { inner := w }).finish W).2 =
        UInt64.ofNat (sealed chunks.flatten).length := by
  obtain ⟨hcontent, hsealer⟩ := foldl_writeAll W { inner := w } chunks
  have hfinish := finish_eq_close W (hcontent.trans (by rw [hsealer]; rfl))
  rwa [hsealer, Sealer.close_accept] at hfinish

/-- **Writing through a sealing seals.** However a frame is cut into pieces and whatever the writer
behind accepts of them in each of its calls, in the end it has the sealed frame after what it had
before, and as many bytes are reported as the sealed frame has, as far as a word can count them. If
it had none before, the frame is what it has under the checksum. A sealer that accepts every piece
at once comes to the same. -/
theorem finish_eq_sealed (w : σ) (chunks : List Bytes) :
    let frame := chunks.flatten
    let out := (chunks.foldl (writer W).writeAll { inner := w }).finish W
    W.content out.1 = W.content w ++ sealed frame ∧
    out.2 = UInt64.ofNat (sealed frame).length ∧
    ((sealed frame).length < 2 ^ 64 → out.2.toNat = (sealed frame).length) ∧
    (W.content w = [] → unsealed (W.content out.1) = .ok frame) ∧
    (chunks.foldl Sealer.accept {}).close = (sealed frame, out.2) := by
  intro frame out
  obtain ⟨hcontent, htotal⟩ := finish_foldl_writeAll W w chunks
  refine ⟨hcontent, htotal, ?_, ?_, ?_⟩
  · intro hlt
    rw [htotal]
    exact UInt64.toNat_ofNat_of_lt' hlt
  · intro hempty
    rw [hcontent, hempty]
    exact unsealed_sealed frame
  · rw [Sealer.foldl_accept, Sealer.close_accept, htotal]

/-- A writer that takes one byte and two bytes in turn. -/
theorem finish_eq_sealed_parts :
    let W := Writer.inParts (· % 2)
    let out := ([[1, 2, 3], [], [4, 5]].foldl (writer W).writeAll { inner := ([], 0) }).finish W
    out.2.toNat = 9 ∧ unsealed (W.content out.1) = .ok [1, 2, 3, 4, 5] := by
  intro W out
  obtain ⟨-, -, htotal, hunsealed, -⟩ := finish_eq_sealed W ([], 0) [[1, 2, 3], [], [4, 5]]
  have hlength : (sealed [[1, 2, 3], [], [4, 5]].flatten).length = 9 := length_sealed _
  rw [hlength] at htotal
  exact ⟨htotal (by decide), hunsealed rfl⟩

end Sealing

end Checksum

/-- A snapshot may be written in pieces through a sealing. -/
theorem Snapshot.Image.finish_eq_bytes {σ : Type} (W : Writer σ) (w : σ) (i : Image)
    {chunks : List Bytes}
    (h : chunks.flatten = i.header.bytes ++ i.entries.flatMap Entry.bytes) :
    let out := (chunks.foldl (Checksum.Sealing.writer W).writeAll { inner := w }).finish W
    W.content out.1 = W.content w ++ i.bytes ∧ out.2 = UInt64.ofNat i.bytes.length := by
  intro out
  have hfinish := Checksum.Sealing.finish_foldl_writeAll W w chunks
  rwa [h] at hfinish

end Nearest
