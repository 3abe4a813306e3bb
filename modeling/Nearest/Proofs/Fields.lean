import Mathlib.Algebra.Group.Nat.Defs
import Nearest.Bytes.Frame
import Nearest.Bytes.Field

/-!
# Fields are read as they were written

Each reader answers what its writer wrote, and whatever comes after it. A length is written as a
word of 64 bits, so a text or a byte string has to be shorter than that.

A reader accepts nothing else: `Field.Exact` says that it succeeds on exactly what its writer has
written. `Checksum.unsealed_eq_ok_iff` says the same of a seal.
-/

namespace Nearest

theorem exists_of_bind_ok {ε α β : Type} {x : Except ε α} {f : α → Except ε β} {b : β}
    (h : (x >>= f) = .ok b) : ∃ a, x = .ok a ∧ f a = .ok b := by
  cases x with
  | ok a => exact ⟨a, rfl, h⟩
  | error e => cases h

namespace Bytes

theorem word32_ofWord32 (w : UInt32) :
    word32 w.toUInt8 (w / 0x100).toUInt8 (w / 0x10000).toUInt8 (w / 0x1000000).toUInt8 = w :=
  Checksum.declared_ofWord32 w

theorem word64_halves (w : UInt64) :
    word64 w.toUInt32 (w / 0x100000000).toUInt32 = w := by
  apply UInt64.toNat_inj.1
  have := w.toNat_lt
  simp [word64]
  omega

theorem ofWord32_word32 (a b c d : UInt8) : ofWord32 (word32 a b c d) = [a, b, c, d] := by
  have ha := a.toNat_lt
  have hb := b.toNat_lt
  have hc := c.toNat_lt
  have hd := d.toNat_lt
  have hw : (word32 a b c d).toNat =
      a.toNat + b.toNat * 2 ^ 8 + c.toNat * 2 ^ 16 + d.toNat * 2 ^ 24 := by
    simp [word32]
    omega
  simp only [ofWord32, List.cons.injEq, and_true, ← UInt8.toNat_inj]
  simp only [UInt32.toNat_toUInt8, UInt32.toNat_div, UInt32.reduceToNat, hw]
  omega

theorem ofWord64_word64 (low high : UInt32) :
    ofWord64 (word64 low high) = ofWord32 low ++ ofWord32 high := by
  have hl := low.toNat_lt
  have hh := high.toNat_lt
  have hw : (word64 low high).toNat = low.toNat + high.toNat * 2 ^ 32 := by
    simp [word64]
    omega
  have hlow : (word64 low high).toUInt32 = low := by
    apply UInt32.toNat_inj.1
    rw [UInt64.toNat_toUInt32, hw]
    omega
  have hhigh : (word64 low high / 0x100000000).toUInt32 = high := by
    apply UInt32.toNat_inj.1
    rw [UInt64.toNat_toUInt32, UInt64.toNat_div, hw]
    simp only [UInt64.reduceToNat]
    omega
  rw [ofWord64, hlow, hhigh]

theorem words32_ofWords32 (ws : List UInt32) : words32 (ofWords32 ws) = ws := by
  induction ws with
  | nil => rfl
  | cons w ws ih =>
    have hsplit : ofWords32 (w :: ws) = ofWord32 w ++ ofWords32 ws := rfl
    rw [hsplit, ofWord32]
    simp only [List.cons_append, List.nil_append, words32, word32_ofWord32, ih]

/-- A byte string of whole words is these words end to end. -/
theorem ofWords32_words32 {b : Bytes} (h : b.length % 4 = 0) : ofWords32 (words32 b) = b := by
  induction b using words32.induct with
  | case1 a b c d rest ih =>
    have hsplit : ofWords32 (word32 a b c d :: words32 rest) =
        ofWord32 (word32 a b c d) ++ ofWords32 (words32 rest) := rfl
    have hrest : rest.length % 4 = 0 := by
      simp only [List.length_cons] at h
      omega
    rw [words32, hsplit, ofWord32_word32, ih hrest]
    rfl
  | case2 b hshort =>
    have hnil : b = [] := by
      match b, hshort, h with
      | [], _, _ => rfl
      | [_], _, h | [_, _], _, h | [_, _, _], _, h => cases h
      | a :: b :: c :: d :: rest, hshort, _ => exact absurd rfl (hshort a b c d rest)
    rw [hnil]
    rfl

theorem length_ofWords32 (ws : List UInt32) : (ofWords32 ws).length = 4 * ws.length := by
  induction ws with
  | nil => rfl
  | cons w ws ih =>
    have hsplit : ofWords32 (w :: ws) = ofWord32 w ++ ofWords32 ws := rfl
    rw [hsplit, List.length_append, ih, length_ofWord32, List.length_cons]
    omega

theorem splitExactly_append (a rest : Bytes) :
    splitExactly a.length (a ++ rest) = some (a, rest) := by
  simp [splitExactly]

theorem splitExactly_eq_some_iff {n : Nat} {b a rest : Bytes} :
    splitExactly n b = some (a, rest) ↔ a.length = n ∧ b = a ++ rest := by
  constructor
  · intro h
    simp only [splitExactly] at h
    split at h
    · rename_i hn
      cases h
      exact ⟨hn, (List.take_append_drop n b).symm⟩
    · cases h
  · rintro ⟨rfl, rfl⟩
    exact splitExactly_append a rest

theorem text?_ofText (s : String) : text? (ofText s) = some s := by
  have hbytes : (⟨(ofText s).toArray⟩ : ByteArray) = s.toUTF8 := by
    apply ByteArray.ext
    simp [ofText]
  rw [text?, hbytes, String.fromUTF8?]
  exact dif_pos s.isValidUTF8

theorem text?_eq_some_iff {b : Bytes} {s : String} : text? b = some s ↔ b = ofText s := by
  constructor
  · intro h
    rw [text?, String.fromUTF8?] at h
    split at h
    · rename_i hvalid
      rw [← Option.some.inj h]
      rfl
    · cases h
  · rintro rfl
    exact text?_ofText s

/-- A length that fits into a word is the number in the word. -/
theorem toNat_length {b : Bytes} (h : b.length < 2 ^ 64) :
    (UInt64.ofNat b.length).toNat = b.length := by
  rw [UInt64.toNat_ofNat']
  exact Nat.mod_eq_of_lt h

end Bytes

/-! ## Seals -/

namespace Checksum

theorem ofWord32_declared {b : Bytes} (h : b.length = 4) : Bytes.ofWord32 (declared b) = b := by
  match b, h with
  | [a, b, c, d], _ => exact Bytes.ofWord32_word32 a b c d

theorem unsealed_eq_ok_iff {b frame : Bytes} : unsealed b = .ok frame ↔ b = sealed frame := by
  constructor
  · intro h
    simp only [unsealed] at h
    split at h
    · cases h
    · rename_i hlength
      split at h
      · rename_i hsum
        cases h
        rw [sealed, hsum, ofWord32_declared (by rw [List.length_drop]; omega),
          List.take_append_drop]
      · cases h
  · rintro rfl
    exact unsealed_sealed frame

end Checksum

namespace Field

/-! ## What was written is read -/

theorem word32_ofWord32 (w : UInt32) (rest : Bytes) :
    word32 (Bytes.ofWord32 w ++ rest) = .ok (w, rest) := by
  rw [Bytes.ofWord32]
  simp only [List.cons_append, List.nil_append, word32, Bytes.word32_ofWord32]

theorem word64_ofWord64 (w : UInt64) (rest : Bytes) :
    word64 (Bytes.ofWord64 w ++ rest) = .ok (w, rest) := by
  simp only [word64, Bytes.ofWord64, List.append_assoc, word32_ofWord32, bind, Except.bind,
    Bytes.word64_halves, pure, Except.pure]

theorem blob_ofBlob {b : Bytes} (h : b.length < 2 ^ 64) (rest : Bytes) :
    blob (ofBlob b ++ rest) = .ok (b, rest) := by
  rw [blob, ofBlob, List.append_assoc, word64_ofWord64]
  simp only [bind, Except.bind]
  rw [Bytes.toNat_length h, Bytes.splitExactly_append]

theorem text_ofText {s : String} (h : (Bytes.ofText s).length < 2 ^ 64) (rest : Bytes) :
    text (ofText s ++ rest) = .ok (s, rest) := by
  rw [text, ofText, ofBlob, List.append_assoc, word64_ofWord64]
  simp only [bind, Except.bind]
  rw [Bytes.toNat_length h, Bytes.splitExactly_append]
  simp only [textOf, Bytes.text?_ofText]
  rfl

theorem optional_ofOptional {α : Type} {field : Reader α} {write : α → Bytes}
    (h : ∀ a rest, field (write a ++ rest) = .ok (a, rest)) (o : Option α) (rest : Bytes) :
    optional field (ofOptional write o ++ rest) = .ok (o, rest) := by
  cases o with
  | none => rfl
  | some a => simp only [ofOptional, List.cons_append, optional, h, bind, Except.bind, pure,
      Except.pure]

/-! ## Only what was written is read -/

variable {α β : Type}

/-- A reader accepts exactly what a writer writes of the values that fit, and answers the bytes
after it. -/
def Exact (read : Reader α) (write : α → Bytes) (fits : α → Prop) : Prop :=
  ∀ b a rest, read b = .ok (a, rest) ↔ fits a ∧ b = write a ++ rest

/-- Reading on after a field. -/
theorem Exact.of_bind {read : Reader α} {write : α → Bytes} {fits : α → Prop}
    (h : Exact read write fits) {b : Bytes} {next : α × Bytes → Except Fault β} {y : β}
    (hy : (read b >>= next) = .ok y) :
    ∃ a rest, fits a ∧ b = write a ++ rest ∧ next (a, rest) = .ok y := by
  obtain ⟨x, hb, hnext⟩ := exists_of_bind_ok hy
  obtain ⟨hfits, hsplit⟩ := (h b x.1 x.2).1 hb
  exact ⟨x.1, x.2, hfits, hsplit, hnext⟩

/-- What was written does not go on in two ways. -/
theorem Exact.prefix_unique {read : Reader α} {write : α → Bytes} {fits : α → Prop}
    (h : Exact read write fits) {a a' : α} (ha : fits a) (ha' : fits a') {rest rest' : Bytes}
    (heq : write a ++ rest = write a' ++ rest') : a = a' ∧ rest = rest' := by
  have hread := (h _ a rest).2 ⟨ha, rfl⟩
  have hread' := (h _ a' rest').2 ⟨ha', rfl⟩
  rw [heq, hread'] at hread
  cases hread
  exact ⟨rfl, rfl⟩

theorem exact_word32 : Exact word32 Bytes.ofWord32 fun _ => True := by
  intro b w rest
  constructor
  · intro h
    match b, h with
    | a :: b :: c :: d :: rest, h =>
      cases h
      exact ⟨trivial, by rw [Bytes.ofWord32_word32]; rfl⟩
  · rintro ⟨-, rfl⟩
    exact word32_ofWord32 w rest

theorem exact_word64 : Exact word64 Bytes.ofWord64 fun _ => True := by
  intro b w rest
  constructor
  · intro h
    obtain ⟨low, b₁, -, hlow, h₁⟩ := exact_word32.of_bind h
    obtain ⟨high, b₂, -, hhigh, h₂⟩ := exact_word32.of_bind h₁
    cases h₂
    refine ⟨trivial, ?_⟩
    rw [Bytes.ofWord64_word64, List.append_assoc, ← hhigh, ← hlow]
  · rintro ⟨-, rfl⟩
    exact word64_ofWord64 w rest

/-- Bytes that were taken after their count are a byte string after its length. -/
theorem eq_ofBlob_of_split {n : UInt64} {b taken rest : Bytes}
    (h : Bytes.splitExactly n.toNat b = some (taken, rest)) :
    taken.length < 2 ^ 64 ∧ Bytes.ofWord64 n ++ b = ofBlob taken ++ rest := by
  obtain ⟨hlength, rfl⟩ := Bytes.splitExactly_eq_some_iff.1 h
  have hlt := n.toNat_lt
  rw [ofBlob, hlength, UInt64.ofNat_toNat, List.append_assoc]
  exact ⟨by omega, rfl⟩

theorem exact_blob : Exact blob ofBlob fun data => data.length < 2 ^ 64 := by
  intro b data rest
  constructor
  · intro h
    obtain ⟨n, b₁, -, rfl, h₁⟩ := exact_word64.of_bind h
    dsimp only at h₁
    split at h₁
    · rename_i hsplit
      cases h₁
      exact eq_ofBlob_of_split hsplit
    · cases h₁
  · rintro ⟨hlength, rfl⟩
    exact blob_ofBlob hlength rest

theorem textOf_eq_ok_iff {b : Bytes} {s : String} : textOf b = .ok s ↔ b = Bytes.ofText s := by
  rw [← Bytes.text?_eq_some_iff, textOf]
  cases Bytes.text? b <;> simp

theorem exact_text : Exact text ofText fun s => (Bytes.ofText s).length < 2 ^ 64 := by
  intro b s rest
  constructor
  · intro h
    obtain ⟨n, b₁, -, rfl, h₁⟩ := exact_word64.of_bind h
    dsimp only at h₁
    split at h₁
    · rename_i taken rest' hsplit
      cases htext : textOf taken with
      | error why =>
        rw [htext] at h₁
        cases h₁
      | ok s' =>
        rw [htext] at h₁
        cases h₁
        obtain rfl := textOf_eq_ok_iff.1 htext
        exact eq_ofBlob_of_split hsplit
    · cases h₁
  · rintro ⟨hlength, rfl⟩
    exact text_ofText hlength rest

theorem exact_optional {field : Reader α} {write : α → Bytes}
    (h : Exact field write fun _ => True) :
    Exact (optional field) (ofOptional write) fun _ => True := by
  intro b o rest
  constructor
  · intro ho
    unfold optional at ho
    split at ho
    · cases ho
      exact ⟨trivial, rfl⟩
    · obtain ⟨a, b₁, -, rfl, ha⟩ := h.of_bind ho
      cases ha
      exact ⟨trivial, rfl⟩
    · cases ho
    · cases ho
  · rintro ⟨-, rfl⟩
    exact optional_ofOptional (fun a rest => (h _ a rest).2 ⟨trivial, rfl⟩) o rest

end Field

end Nearest
