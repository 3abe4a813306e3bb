/-!
# Key patterns

The form of a key pattern and how it is read from text. A pattern is a sequence of tokens; a pair of
stars between slashes, or at an end of the pattern, is a token of its own that spans whole segments
of a key.

* `Token` is the syntax of patterns.
* `Lexeme` is the text cut into its marks, with the classes already read.
* `parse` builds the tokens of a text, or finds its first fault from the left.
-/

namespace Nearest.Glob

/-- One part of a pattern. -/
inductive Token
  /-- This character. -/
  | literal (c : Char)
  /-- Any one byte. -/
  | anyByte
  /-- Any bytes. -/
  | anyRun
  /-- Segments at the start: nothing, a slash, or any bytes up to and with a slash. -/
  | leadingSegments
  /-- Segments at the end: a slash and any bytes. -/
  | trailingSegments
  /-- Segments between: a slash, or any bytes between two slashes. -/
  | innerSegments
  /-- One byte in the ranges, or not in them. -/
  | oneOf (negated : Bool) (ranges : List (Char × Char))
  /-- One of the branches. -/
  | group (branches : List (List Token))

/-- Why a text is no pattern. -/
inductive Fault
  | unclosedClass
  | invalidRange (low high : Char)
  | unopenedGroup
  | unclosedGroup
  | danglingEscape
  deriving DecidableEq

namespace Fault

/-- The text that reports a fault. -/
def message : Fault → String
  | .unclosedClass => "unclosed character class; missing ']'"
  | .invalidRange low high => s!"invalid range; '{low}' > '{high}'"
  | .unopenedGroup =>
    "unopened alternate group; missing '\x7b' (maybe escape '\x7d' with '[\x7d]'?)"
  | .unclosedGroup =>
    "unclosed alternate group; missing '\x7d' (maybe escape '\x7b' with '[\x7b]'?)"
  | .danglingEscape => "dangling '\\'"

end Fault

/-! ## Lexemes -/

/-- A mark of a pattern. A fault stands where it is met, and nothing follows it. -/
inductive Lexeme
  | plain (c : Char)
  | escaped (c : Char)
  | question
  | star
  | opening
  | comma
  | closing
  | cls (negated : Bool) (ranges : List (Char × Char))
  | fault (why : Fault)

/-- A class whose closing bracket is still to come. -/
structure OpenClass where
  negated : Bool
  /-- The ranges so far, the latest first. -/
  ranges : List (Char × Char) := []
  /-- Whether the next character ends the latest range. -/
  inRange : Bool := false

namespace OpenClass

/-- Takes one more character: a new member, or the end of the latest range. -/
def add (o : OpenClass) (c : Char) : Except Fault OpenClass :=
  match o.inRange, o.ranges with
  | true, (low, _) :: rest =>
    if c < low then .error (.invalidRange low c)
    else .ok { o with ranges := (low, c) :: rest, inRange := false }
  | _, ranges => .ok { o with ranges := (c, c) :: ranges, inRange := false }

/-- The class once its bracket closes; a hyphen with nothing after it is a member. -/
def close (o : OpenClass) : Lexeme :=
  .cls o.negated (if o.inRange then ('-', '-') :: o.ranges else o.ranges).reverse

end OpenClass

/-- The marks of a text; inside a class, of the rest of it. A closing bracket or a hyphen that comes
first in a class is a member. -/
def lexemes : Option OpenClass → List Char → List Lexeme
  | none, [] => []
  | none, '?' :: rest => .question :: lexemes none rest
  | none, '*' :: rest => .star :: lexemes none rest
  | none, '{' :: rest => .opening :: lexemes none rest
  | none, ',' :: rest => .comma :: lexemes none rest
  | none, '}' :: rest => .closing :: lexemes none rest
  | none, ['\\'] => [.fault .danglingEscape]
  | none, '\\' :: c :: rest => .escaped c :: lexemes none rest
  | none, '[' :: '!' :: rest => lexemes (some ⟨true, [], false⟩) rest
  | none, '[' :: '^' :: rest => lexemes (some ⟨true, [], false⟩) rest
  | none, '[' :: rest => lexemes (some ⟨false, [], false⟩) rest
  | none, c :: rest => .plain c :: lexemes none rest
  | some _, [] => [.fault .unclosedClass]
  | some o, c :: rest =>
    if c = ']' && !o.ranges.isEmpty then o.close :: lexemes none rest
    else if c = '-' && !o.ranges.isEmpty && !o.inRange then
      lexemes (some { o with inRange := true }) rest
    else
      match o.add c with
      | .ok o => lexemes (some o) rest
      | .error why => [.fault why]

/-! ## Tokens -/

/-- A group whose closing brace is still to come. -/
structure OpenGroup where
  /-- The branches already ended, the latest first. -/
  branches : List (List Token)
  /-- The branch that the group itself stands in, the latest token first. -/
  outer : List Token

/-- A pattern being read. -/
structure Draft where
  /-- The current branch, the latest token first. -/
  branch : List Token := []
  /-- The open groups, the innermost first. -/
  groups : List OpenGroup := []
  /-- The character taken last. -/
  last : Option Char := none

namespace Draft

/-- Appends a token to the current branch. -/
def push (d : Draft) (t : Token) (last : Char) : Draft :=
  { d with branch := t :: d.branch, last := some last }

/-- Opens a group. -/
def openGroup (d : Draft) : Draft where
  branch := []
  groups := ⟨[], d.branch⟩ :: d.groups
  last := some '{'

/-- A comma ends a branch inside a group, and is a character outside. -/
def comma (d : Draft) : Draft :=
  match d.groups with
  | [] => d.push (.literal ',') ','
  | g :: groups =>
    { branch := [], groups := { g with branches := d.branch.reverse :: g.branches } :: groups,
      last := some ',' }

/-- Closes the innermost group. -/
def closeGroup (d : Draft) : Except Fault Draft :=
  match d.groups with
  | [] => .error .unopenedGroup
  | g :: groups =>
    let branches := (d.branch.reverse :: g.branches).reverse
    .ok { branch := .group branches :: g.outer, groups, last := some '}' }

/-- The tokens of the whole pattern. -/
def finish (d : Draft) : Except Fault (List Token) :=
  match d.groups with
  | [] => .ok d.branch.reverse
  | _ :: _ => .error .unclosedGroup

/-- Whether a pair of stars after these tokens begins at a boundary between segments. Inside a group
an escaped comma or brace counts as one. -/
def atBoundary (d : Draft) : Bool :=
  d.last == some '/' || (!d.groups.isEmpty && (d.last == some ',' || d.last == some '{'))

/-- Puts the token of whole segments in the place of the slash before the stars; segments that
already reach here are kept as they are. -/
def spanSegments (d : Draft) (t : Token) (last : Char) : Draft :=
  match d.branch with
  | .leadingSegments :: _ | .trailingSegments :: _ => { d with last := some last }
  | _ :: branch => { d with branch := t :: branch, last := some last }
  | [] => { d with branch := [t], last := some last }

/-- Two stars that do not span segments. -/
def pushTwoRuns (d : Draft) : Draft :=
  (d.push .anyRun '*').push .anyRun '*'

/-- Takes a pair of stars, given what follows them; answers what is left to read. A slash after the
pair is taken with it where the pair spans segments. -/
def pushStars (d : Draft) (rest : List Lexeme) : Draft × List Lexeme :=
  if d.branch.isEmpty then
    match rest with
    | [] => (d.push .leadingSegments '*', [])
    | .plain '/' :: rest => (d.push .leadingSegments '/', rest)
    | rest => (d.pushTwoRuns, rest)
  else if !d.atBoundary then (d.pushTwoRuns, rest)
  else
    match rest with
    | [] => (d.spanSegments .trailingSegments '*', [])
    | .plain '/' :: rest => (d.spanSegments .innerSegments '/', rest)
    | .comma :: _ | .closing :: _ =>
      if d.groups.isEmpty then (d.pushTwoRuns, rest)
      else (d.spanSegments .trailingSegments '*', rest)
    | rest => (d.pushTwoRuns, rest)

theorem length_pushStars_le (d : Draft) (rest : List Lexeme) :
    (d.pushStars rest).2.length ≤ rest.length := by
  unfold pushStars
  repeat' split
  all_goals simp

/-- Reads the marks that are left. -/
def read (d : Draft) : List Lexeme → Except Fault (List Token)
  | [] => d.finish
  | .star :: .star :: rest =>
    match d.pushStars rest, d.length_pushStars_le rest with
    | (d, left), (_ : left.length ≤ rest.length) => d.read left
  | .star :: rest => (d.push .anyRun '*').read rest
  | .question :: rest => (d.push .anyByte '?').read rest
  | .plain c :: rest => (d.push (.literal c) c).read rest
  | .escaped c :: rest => (d.push (.literal c) c).read rest
  | .cls negated ranges :: rest => (d.push (.oneOf negated ranges) ']').read rest
  | .opening :: rest => d.openGroup.read rest
  | .comma :: rest => d.comma.read rest
  | .closing :: rest =>
    match d.closeGroup with
    | .ok d => d.read rest
    | .error why => .error why
  | .fault why :: _ => .error why
  termination_by marks => marks.length

end Draft

/-- The pattern that a text writes, or its first fault from the left. -/
def parse (text : String) : Except Fault (List Token) :=
  Draft.read {} (lexemes none text.toList)

end Nearest.Glob
