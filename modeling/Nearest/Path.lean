/-!
# Paths

A path is a text: names with slashes between them. It is read from the working directory, or from
the top of the tree if it starts with a slash; the name `.` stays in a directory and the name `..`
goes to the one above. What a path leads to is the machine's to say, so that no name is ever
cancelled against another here.
-/

namespace Nearest.Path

/-- The names of a path, in their order. Slashes that follow each other count as one. -/
def names (path : String) : List String :=
  ((path.toList.splitOn '/').filter (· ≠ [])).map String.ofList

/-- Whether a path starts at the top of the tree. -/
def isAbsolute (path : String) : Bool :=
  path.toList.head? = some '/'

/-- Whether a path ends with a slash, as that of a directory may. -/
def endsWithSlash (path : String) : Bool :=
  path.toList.getLast? = some '/'

/-- The path of a name in a directory. -/
def inside (dir name : String) : String :=
  if dir = "" || endsWithSlash dir then dir ++ name else dir ++ "/" ++ name

/-- The names of a path without those that stay where they are; one that a path begins with says
where it is read from. -/
def moves (path : String) : List String :=
  match names path with
  | "." :: rest => (if isAbsolute path then [] else ["."]) ++ rest.filter (· ≠ ".")
  | all => all.filter (· ≠ ".")

/-- The paths of the directories on the way to the end of a path, from the end up. -/
def above (path : String) : List String :=
  let moves := moves path
  let start := if isAbsolute path then "/" else ""
  let paths := (List.range moves.length).map fun i => start ++ "/".intercalate (moves.take i)
  (paths.filter (· ≠ "")).reverse

end Nearest.Path
