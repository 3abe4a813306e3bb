import Nearest.Bytes.Basic
import Nearest.Glob.Pattern

/-!
# Which keys a pattern matches

A pattern is matched against the UTF-8 bytes of a key. Each token moves a set of positions in the
key to the set of positions that it can reach from them (`Token.advance`), so the work is bounded by
the length of the key for each token; a key matches if its end is reached from its start
(`matchesBytes`).
-/

namespace Nearest.Glob

/-- A character's UTF-8 bytes. -/
def charBytes (c : Char) : Bytes :=
  Bytes.ofText (String.singleton c)

/-- The byte ranges that a range of characters stands for in a class. Only the last byte of the low
end and the first byte of the high end span a range; the other bytes are members of their own. -/
def byteRanges : Char × Char → List (UInt8 × UInt8)
  | (low, high) =>
    let single := fun b : UInt8 => (b, b)
    if low = high then (charBytes low).map single
    else
      match (charBytes low).reverse, charBytes high with
      | last :: before, first :: after =>
        before.reverse.map single ++ [(last, first)] ++ after.map single
      | _, _ => []

/-- Whether one byte is in the class with these ranges. -/
def inClass (negated : Bool) (ranges : List (Char × Char)) (b : UInt8) : Bool :=
  (ranges.flatMap byteRanges).any (fun (low, high) => low ≤ b && b ≤ high) != negated

/-- A set of positions in a key, ascending. -/
abbrev Positions := List Nat

namespace Positions

/-- The positions after one byte that satisfies `p`. -/
def step (key : Array UInt8) (p : UInt8 → Bool) (ps : Positions) : Positions :=
  (ps.filter fun i => (key[i]?).any p).map (· + 1)

/-- The positions after these bytes. -/
def steps (key : Array UInt8) (bytes : Bytes) (ps : Positions) : Positions :=
  bytes.foldl (fun ps b => step key (· == b) ps) ps

/-- The positions after any bytes. -/
def run (key : Array UInt8) : Positions → Positions
  | [] => []
  | i :: _ => List.range' i (key.size + 1 - i)

/-- The positions in either set. -/
def union (key : Array UInt8) (ps qs : Positions) : Positions :=
  (List.range (key.size + 1)).filter fun i => ps.contains i || qs.contains i

/-- The positions after a slash. -/
def slash (key : Array UInt8) (ps : Positions) : Positions :=
  step key (· == 0x2f) ps

end Positions

mutual

/-- Whether a token stands for no text at all: a group with nothing in any of its branches. -/
def Token.isVoid : Token → Bool
  | .group branches => allVoid branches
  | _ => false

/-- Whether every token of a sequence stands for no text. -/
def sequenceVoid : List Token → Bool
  | [] => true
  | t :: rest => t.isVoid && sequenceVoid rest

/-- Whether every branch stands for no text. -/
def allVoid : List (List Token) → Bool
  | [] => true
  | branch :: rest => sequenceVoid branch && allVoid rest

end

mutual

/-- The positions that a token reaches. A void branch of a group is not taken, unless all are. -/
def Token.advance (key : Array UInt8) (ps : Positions) : Token → Positions
  | .literal c => ps.steps key (charBytes c)
  | .anyByte => ps.step key fun _ => true
  | .anyRun => ps.run key
  | .leadingSegments => ps.union key ((ps.run key).slash key)
  | .trailingSegments => (ps.slash key).run key
  | .innerSegments => (ps.slash key).union key (((ps.slash key).run key).slash key)
  | .oneOf negated ranges => ps.step key (inClass negated ranges)
  | .group branches => if allVoid branches then ps else advanceAny key ps branches

/-- The positions that a sequence of tokens reaches. -/
def advanceAll (key : Array UInt8) (ps : Positions) : List Token → Positions
  | [] => ps
  | t :: rest => advanceAll key (t.advance key ps) rest

/-- The positions that one of the branches reaches. -/
def advanceAny (key : Array UInt8) (ps : Positions) : List (List Token) → Positions
  | [] => []
  | branch :: rest =>
    let others := advanceAny key ps rest
    if sequenceVoid branch then others
    else Positions.union key (advanceAll key ps branch) others

end

/-- Whether a pattern is nothing but leading segments, which is every key. -/
def isEveryKey : List Token → Bool
  | [.leadingSegments] => true
  | _ => false

/-- Whether a pattern matches a key with these bytes. -/
def matchesBytes (pattern : List Token) (key : Bytes) : Bool :=
  isEveryKey pattern || (advanceAll key.toArray [0] pattern).contains key.length

end Nearest.Glob
