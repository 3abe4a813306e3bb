import Nearest.Selection

/-!
# Answers to a search

A response is a ranked list of hits and a list of errors. The responses of several shards are folded
into one by `Response.merge`.
-/

namespace Nearest

/-- What a search answers. -/
structure Response where
  /-- The hits, the best first. -/
  results : List Hit := []
  errors : List String := []
  deriving DecidableEq

namespace Response

/-- The response with the hits of a selection. -/
def ofSelection (s : Selection) : Response where
  results := s.sorted

/-- The best `k` hits of several responses, and all their errors in the order of the responses. -/
def merge (k : Nat) (responses : List Response) : Response where
  results := ((Selection.empty k).pushAll (responses.flatMap results)).sorted
  errors := responses.flatMap errors

end Response

end Nearest
