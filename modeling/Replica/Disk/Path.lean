/-!
# Paths

A path is a text. Slashes separate its parts; empty parts and, but for one at the beginning of a
relative path, parts `.` do not count.

* `Path.parts`, `Path.steps`: what a path leads through. A slash at the end is a step to `.`, so
  that what it follows has to be a directory;
* `Path.join`: a path below another;
* `Path.parent?`: the path without its last part that counts, and without what does not count
  before it;
* `Path.ancestors`: the path, its parent, the parent of that, and so on.
-/

namespace Replica.Path

/-- The texts between the slashes, at least one. -/
def split : List Char → List (List Char)
  | [] => [[]]
  | c :: cs =>
    if c = '/' then [] :: split cs
    else
      match split cs with
      | [] => [[c]]
      | p :: ps => (c :: p) :: ps

theorem split_ne_nil (cs : List Char) : split cs ≠ [] := by
  cases cs with
  | nil => simp [split]
  | cons c cs =>
    rw [split]
    split
    · simp
    · split <;> simp

/-- Texts with slashes between them. -/
def unsplit (parts : List (List Char)) : List Char := List.intercalate ['/'] parts

/-- The path begins at the root. -/
def isAbsolute (path : String) : Bool := path.toList.head? == some '/'

/-- The parts that are not empty. -/
def parts (path : String) : List String :=
  ((split path.toList).filter fun p => !p.isEmpty).map String.ofList

/-- The path ends in a slash behind some part. -/
def endsInSlash (path : String) : Bool :=
  path.toList.getLast? == some '/' && !(parts path).isEmpty

/-- The steps of a path. -/
def steps (path : String) : List String :=
  if endsInSlash path then parts path ++ ["."] else parts path

/-- A path below a directory; an absolute one stays as it is. -/
def join (dir path : String) : String :=
  if isAbsolute path then path
  else if dir.isEmpty || dir.toList.getLast? == some '/' then dir ++ path
  else dir ++ "/" ++ path

/-! ## Parents -/

/-- A part that does not count behind the first. -/
def isIdle (part : List Char) : Bool := part.isEmpty || part == ['.']

/-- The parts without those at the end that do not count. -/
def dropIdle (parts : List (List Char)) : List (List Char) :=
  (parts.reverse.dropWhile isIdle).reverse

/-- The parent of the path with these parts: the first, which is empty in an absolute path, and the
others. -/
def parentOf (first : List Char) (others : List (List Char)) : Option (List Char) :=
  match dropIdle others with
  | [] => if first.isEmpty then none else some []
  | counted =>
    match dropIdle counted.dropLast with
    | [] => some (if first.isEmpty then ['/'] else first)
    | above => some (unsplit (first :: above))

/-- The path without its last part. The empty path and the root have no parent. -/
def parent? (path : String) : Option String :=
  match split path.toList with
  | [] => none
  | first :: others => (parentOf first others).map String.ofList

/-- A path and `limit` further paths, each the parent of the one before it. -/
def ancestorsUpTo : (limit : Nat) → String → List String
  | 0, path => [path]
  | limit + 1, path =>
    match parent? path with
    | some p => path :: ancestorsUpTo limit p
    | none => [path]

/-- The path and everything above it. -/
def ancestors (path : String) : List String := ancestorsUpTo (parts path).length path

/-- The last part of a path. -/
def name (path : String) : String := ((parts path).getLast?).getD ""

end Replica.Path
