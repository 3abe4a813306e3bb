/-!
# Byte strings

Everything that is stored, sent or summed is a list of bytes. Words are laid out with their least
significant byte first:

* `Bytes.ofWord32`, `Bytes.ofWord64` write a word;
* `Bytes.word32`, `Bytes.word64` read one from its bytes;
* `Bytes.words32` cuts a byte string into words, `Bytes.ofWords32` joins them again.

Text enters and leaves as UTF-8: `Bytes.ofText` and `Bytes.text?`.
-/

namespace Nearest

/-- A byte string. -/
abbrev Bytes := List UInt8

namespace Bytes

/-- The four bytes of a word, least significant first. -/
def ofWord32 (w : UInt32) : Bytes :=
  [w.toUInt8, (w / 0x100).toUInt8, (w / 0x10000).toUInt8, (w / 0x1000000).toUInt8]

/-- The eight bytes of a word, least significant first. -/
def ofWord64 (w : UInt64) : Bytes :=
  ofWord32 w.toUInt32 ++ ofWord32 (w / 0x100000000).toUInt32

/-- The word with these bytes, least significant first. -/
def word32 (a b c d : UInt8) : UInt32 :=
  a.toUInt32 + b.toUInt32 * 0x100 + c.toUInt32 * 0x10000 + d.toUInt32 * 0x1000000

/-- The word with these low and high halves. -/
def word64 (low high : UInt32) : UInt64 :=
  low.toUInt64 + high.toUInt64 * 0x100000000

/-- The words laid end to end in a byte string; up to three bytes left over are dropped. -/
def words32 : Bytes → List UInt32
  | a :: b :: c :: d :: rest => word32 a b c d :: words32 rest
  | _ => []

/-- Words laid end to end. -/
def ofWords32 (ws : List UInt32) : Bytes :=
  ws.flatMap ofWord32

/-- The UTF-8 bytes of a text. -/
def ofText (s : String) : Bytes :=
  s.toUTF8.data.toList

/-- The text with these UTF-8 bytes, if they are UTF-8. -/
def text? (b : Bytes) : Option String :=
  String.fromUTF8? ⟨b.toArray⟩

/-- Splits off exactly `n` bytes; nothing if there are fewer. -/
def splitExactly (n : Nat) (b : Bytes) : Option (Bytes × Bytes) :=
  let taken := b.take n
  if taken.length = n then some (taken, b.drop n) else none

@[simp] theorem length_ofWord32 (w : UInt32) : (ofWord32 w).length = 4 := rfl

@[simp] theorem length_ofWord64 (w : UInt64) : (ofWord64 w).length = 8 := rfl

/-- Two texts with the same bytes are the same text. -/
theorem ofText_injective {s t : String} (h : ofText s = ofText t) : s = t := by
  apply String.toByteArray_inj.1
  apply ByteArray.ext
  simpa [ofText] using h

end Bytes

end Nearest
