import Nearest.Number.Binary32

/-!
# Cosine similarity

The kernels over vectors of 32-bit components. Sums are taken in binary64 from the left and start at
minus zero, so the empty sum is minus zero. A similarity is never a NaN or an infinity: where the
quotient is none or not finite it is plus zero.
-/

namespace Nearest.Similarity

/-- The sum of the products of the components. -/
def dot (a b : List UInt32) : Float :=
  (List.zipWith (fun x y => Binary32.toFloat x * Binary32.toFloat y) a b).foldl (· + ·) (-0.0)

/-- The Euclidean length of a vector. -/
def norm (a : List UInt32) : Float :=
  (dot a a).sqrt

/-- The similarity of two vectors with this product and these lengths. A zero product gives plus
zero, whatever its sign, so that equal similarities have equal patterns. -/
def ofParts (product normA normB : Float) : Float :=
  let scale := normA * normB
  if scale == 0.0 || product == 0.0 then 0.0
  else
    let quotient := product / scale
    if quotient.isFinite then quotient else 0.0

/-- The cosine similarity of two vectors. -/
def cosine (a b : List UInt32) : Float :=
  ofParts (dot a b) (norm a) (norm b)

end Nearest.Similarity
