import Replica.Toml.Number
import Replica.Toml.Text
import Replica.Toml.Tree

/-!
# Reading a TOML document

* `value`: a value of any kind. Arrays and inline tables may be nested `maxNesting` deep, and the
  recursion is on the levels that are left. Each holds at most `room` elements, a bound that the
  length of the document sets;
* `keys`: a key, possibly dotted, of at most `maxNesting` parts;
* `line`: one line, with its end;
* **`read`**: the entries of a document, in the order in which they were defined. A byte order mark
  in front is dropped.
-/

namespace Replica.Toml

/-- The greatest depth of arrays and inline tables, and the greatest number of parts of a key. -/
def maxNesting : Nat := 79

/-! ## Keys -/

/-- One part of a key. -/
def simpleKey : Parser String
  | '"' :: rest => singleLine ('"' :: rest)
  | '\'' :: rest => singleLine ('\'' :: rest)
  | s =>
    let name := s.takeWhile inBareKey
    if name.isEmpty then none else some (String.ofList name, s.dropWhile inBareKey)

/-- The parts of a key, at most `limit`, with blanks around each. -/
def keyParts : (limit : Nat) → Parser (List String)
  | 0, _ => none
  | limit + 1, s => do
    let (name, s) ← simpleKey (skipWs s)
    match skipWs s with
    | '.' :: rest => do
      let (names, s) ← keyParts limit rest
      return (name :: names, s)
    | s => return ([name], s)

/-- A key: the parts before the last one, and the last. -/
def keys : Parser (List String × String) := fun s => do
  let (names, s) ← keyParts maxNesting s
  let last ← names.getLast?
  return ((names.dropLast, last), s)

/-! ## Values -/

/-- The elements of an array behind its bracket; `fuel` bounds their number. -/
def arrayItems (item : Parser Value) : (fuel : Nat) → Parser (List Value)
  | 0, _ => none
  | fuel + 1, s =>
    match skipBlank true s with
    | ']' :: rest => some ([], rest)
    | s => do
      let (v, s) ← item s
      match skipBlank true s with
      | ',' :: rest => do
        let (vs, s) ← arrayItems item fuel rest
        return (v :: vs, s)
      | ']' :: rest => return ([v], rest)
      | _ => none

/-- A key, an equals sign and a value on one line, with blanks around each. -/
def assignmentOf (item : Parser Value) : Parser (List String × String × Value) := fun s => do
  let ((path, key), s) ← keys s
  let s ← expect '=' s
  let (v, s) ← item (skipWs s)
  return ((path, key, v), skipWs s)

/-- The assignments of an inline table from one of them on. -/
def inlineItems (item : Parser Value) :
    (fuel : Nat) → Parser (List (List String × String × Value))
  | 0, _ => none
  | fuel + 1, s => do
    let (a, s) ← assignmentOf item s
    match s with
    | ',' :: rest => do
      let (as, s) ← inlineItems item fuel rest
      return (a :: as, s)
    | '}' :: rest => return ([a], rest)
    | _ => none

/-- An inline table behind its brace. -/
def inlineBody (item : Parser Value) (room : Nat) (s : List Char) : Option (Value × List Char) :=
  match skipWs s with
  | '}' :: rest => some (.table [], rest)
  | s => do
    let (as, rest) ← inlineItems item room s
    let v ← inlineTable as
    return (v, rest)

/-- A value that holds no others. -/
def scalar (s : List Char) : Option (Value × List Char) :=
  match s with
  | '"' :: _ => (text s).map fun r => (.string r.1, r.2)
  | '\'' :: _ => (text s).map fun r => (.string r.1, r.2)
  | 't' :: 'r' :: 'u' :: 'e' :: rest => some (.boolean true, rest)
  | 'f' :: 'a' :: 'l' :: 's' :: 'e' :: rest => some (.boolean false, rest)
  | s =>
    if startsDate s || startsTime s then (moment s).map fun r => (.moment r.1, r.2)
    else number s

/-- **A value**, with at most `depth` levels of arrays and inline tables of at most `room` elements
each. -/
def value (room : Nat) : (depth : Nat) → Parser Value
  | 0, s =>
    match s with
    | '[' :: _ => none
    | '{' :: _ => none
    | s => scalar s
  | depth + 1, s =>
    match s with
    | '[' :: rest => (arrayItems (value room depth) room rest).map fun r => (.array false r.1, r.2)
    | '{' :: rest => inlineBody (value room depth) room rest
    | s => scalar s

/-! ## Lines -/

/-- A header behind its first bracket. -/
def headerLine (s : List Char) : Option (Line × List Char) :=
  match s with
  | '[' :: rest => do
    let ((path, key), s) ← keys rest
    let s ← expect ']' s
    let s ← expect ']' s
    return (.arrayHeader path key, s)
  | s => do
    let ((path, key), s) ← keys s
    let s ← expect ']' s
    return (.header path key, s)

/-- The part of a line that says something, if it is not blank. -/
def statement (room : Nat) (s : List Char) : Option (Option Line × List Char) :=
  match s with
  | [] => some (none, [])
  | '#' :: _ => some (none, s)
  | '\n' :: _ => some (none, s)
  | '\r' :: _ => some (none, s)
  | '[' :: rest => (headerLine rest).map fun r => (some r.1, r.2)
  | s => (assignmentOf (value room maxNesting) s).map fun r =>
    (some (.assignment r.1.1 r.1.2.1 r.1.2.2), r.2)

/-- One line with its end. -/
def line (room : Nat) (s : List Char) : Option (Option Line × List Char) := do
  let (l, s) ← statement room (skipWs s)
  let s ← endLine s
  return (l, s)

/-- The lines of a document; `fuel` bounds their number. -/
def linesOf (room : Nat) : (fuel : Nat) → List Char → Option (List Line)
  | 0, s => if s.isEmpty then some [] else none
  | fuel + 1, s =>
    if s.isEmpty then some []
    else do
      let (l, s) ← line room s
      let ls ← linesOf room fuel s
      return l.toList ++ ls

/-- The document without a byte order mark in front. -/
def skipMark : List Char → List Char
  | c :: rest => if c = '\ufeff' then rest else c :: rest
  | [] => []

/-- The lines of a document. -/
def lines (source : String) : Option (List Line) :=
  let s := skipMark source.toList
  linesOf s.length s.length s

/-- **The entries of a document**, if it is one. -/
def read (source : String) : Option (List (String × Value)) := do
  let ls ← lines source
  build ls

end Replica.Toml
