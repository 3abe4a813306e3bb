import Nearest.Hit

/-!
# Bounded selections

A selection keeps the best of the hits that are offered to it, at most a fixed number. It holds them
from the worst to the best, so that the one to be replaced comes first.
-/

namespace Nearest

/-- The best hits so far, at most `capacity`. -/
structure Selection where
  capacity : Nat
  /-- The hits that are kept, the worst first. -/
  held : List Hit := []

namespace Selection

/-- A selection that has been offered nothing. -/
def empty (capacity : Nat) : Selection where
  capacity

/-- Puts a hit in its place among hits that go from the worst to the best. -/
def insertRanked (h : Hit) : List Hit → List Hit
  | [] => [h]
  | x :: rest => if h ≤ x then h :: x :: rest else x :: insertRanked h rest

/-- Offers a hit. While there is room it is kept; after that only if it outranks the worst kept one,
whose place it takes. -/
def push (s : Selection) (h : Hit) : Selection :=
  if s.held.length < s.capacity then { s with held := insertRanked h s.held }
  else
    match s.held with
    | [] => s
    | worst :: rest => if worst < h then { s with held := insertRanked h rest } else s

/-- Offers hits one after the other. -/
def pushAll (s : Selection) (hs : List Hit) : Selection :=
  hs.foldl push s

/-- Offers all that another selection keeps. -/
def merge (s t : Selection) : Selection :=
  s.pushAll t.held

/-- How many hits are kept. -/
def size (s : Selection) : Nat :=
  s.held.length

/-- Whether no hit is kept. -/
def isEmpty (s : Selection) : Bool :=
  s.held.isEmpty

/-- The worst kept hit, once there is no more room. -/
def threshold? (s : Selection) : Option Hit :=
  if s.held.length < s.capacity then none else s.held.head?

/-- The kept hits, the best first. -/
def sorted (s : Selection) : List Hit :=
  s.held.reverse

end Selection

end Nearest
