import Replica.Toml.Value

/-!
# From lines to tables

A document is a list of lines: assignments and headers. `Line.apply` puts one line into the tables
made so far, and fails where a line would define a key or a table twice.

* `Node`: a value, which is closed; a table, which remembers how it came to be; or an array of
  tables, whose last element is the one that further lines speak of, with those before it;
* `update`: a change of the table at the end of a path, the tables on the way being made;
* `assign`, `header`, `arrayHeader`: the three kinds of lines;
* **`build`**: the tables of a whole document; `inlineTable`: the table of assignments in braces.
-/

namespace Replica.Toml

/-- How a table came to be: by a header of its own, on the way of a header, or on the way of an
assignment to a dotted key. -/
inductive Origin where
  | header
  | way
  | dotted
  deriving DecidableEq, Repr

/-- A part of a document that is being read. -/
inductive Node where
  | value (v : Value)
  | table (origin : Origin) (entries : List (String × Node))
  /-- The last element, and the earlier ones with the latest first. -/
  | tables (last : List (String × Node)) (earlier : List (List (String × Node)))

/-- The entries of a table that is being read, in document order. -/
abbrev Entries : Type := List (String × Node)

/-- The node under a key. -/
def Entries.find? (key : String) : Entries → Option Node
  | [] => none
  | e :: rest => if e.1 = key then some e.2 else Entries.find? key rest

/-- The entries with another node under a key that is there. -/
def Entries.replace (key : String) (node : Node) (entries : Entries) : Entries :=
  entries.map fun e => if e.1 = key then (key, node) else e

/-- The entries with a new key at the end. -/
def Entries.add (key : String) (node : Node) (entries : Entries) : Entries :=
  entries ++ [(key, node)]

/-- The entries without a key. -/
def Entries.remove (key : String) (entries : Entries) : Entries :=
  entries.filter fun e => e.1 ≠ key

/-! ## Lines -/

/-- A change of the table at the end of a path that begins in a table of the given origin. Missing
tables are made. The way leads through the last element of an array of tables, and for a dotted key
not through a table that has a header of its own. -/
def update (dotted : Bool) (change : Origin → Entries → Option Entries) :
    List String → Origin → Entries → Option Entries
  | [], origin, entries => change origin entries
  | key :: path, _, entries =>
    match Entries.find? key entries with
    | none => do
      let origin := if dotted then .dotted else .way
      let inner ← update dotted change path origin []
      return Entries.add key (.table origin inner) entries
    | some (.value _) => none
    | some (.table origin inner) =>
      if dotted ∧ origin = .header then none
      else do
        let inner ← update dotted change path origin inner
        return Entries.replace key (.table origin inner) entries
    | some (.tables last earlier) => do
      let last ← update dotted change path .header last
      return Entries.replace key (.tables last earlier) entries

/-- Put a value under a key, in the table at the end of a dotted path. A path that is not empty has
to end in a table made by dotted keys alone. -/
def assign (path : List String) (key : String) (v : Value) : Origin → Entries → Option Entries :=
  update true
    (fun origin entries =>
      if (origin == .dotted) == path.isEmpty then none
      else if (Entries.find? key entries).isSome then none
      else some (Entries.add key (.value v) entries))
    path

/-- Open a table under its header. A table that was only made on the way of other headers is moved
to the end. -/
def header (path : List String) (key : String) : Origin → Entries → Option Entries :=
  update false
    (fun _ entries =>
      match Entries.find? key entries with
      | none => some (Entries.add key (.table .header []) entries)
      | some (.table .way inner) =>
        some (Entries.add key (.table .header inner) (Entries.remove key entries))
      | some _ => none)
    path

/-- Begin a further element of an array of tables. -/
def arrayHeader (path : List String) (key : String) : Origin → Entries → Option Entries :=
  update false
    (fun _ entries =>
      match Entries.find? key entries with
      | none => some (Entries.add key (.tables [] []) entries)
      | some (.tables last earlier) =>
        some (Entries.replace key (.tables [] (last :: earlier)) entries)
      | some _ => none)
    path

/-! ## Documents -/

/-- A line of a document: the keys before the last one, and the last. -/
inductive Line where
  | assignment (path : List String) (key : String) (v : Value)
  | header (path : List String) (key : String)
  | arrayHeader (path : List String) (key : String)

/-- The tables read so far, and the path of the table that assignments go to. -/
structure Draft where
  entries : Entries
  current : List String

/-- One more line. -/
def Line.apply (d : Draft) : Line → Option Draft
  | assignment path key v => do
    let entries ← update false (assign path key v) d.current .header d.entries
    return { d with entries }
  | header path key => do
    let entries ← Toml.header path key .header d.entries
    return ⟨entries, path ++ [key]⟩
  | arrayHeader path key => do
    let entries ← Toml.arrayHeader path key .header d.entries
    return ⟨entries, path ++ [key]⟩

mutual

/-- The value of a node that has been read completely. -/
def Node.toValue : Node → Value
  | .value v => v
  | .table _ entries => .table (entriesToValues entries)
  | .tables last earlier =>
    .array true ((.table (entriesToValues last) :: elementsToValues earlier).reverse)

/-- The values of the entries of a table. -/
def entriesToValues : List (String × Node) → List (String × Value)
  | [] => []
  | (key, node) :: rest => (key, node.toValue) :: entriesToValues rest

/-- The values of some elements of an array of tables, in the order in which they are given. -/
def elementsToValues : List (List (String × Node)) → List Value
  | [] => []
  | entries :: rest => .table (entriesToValues entries) :: elementsToValues rest

end

/-- **The entries of a document.** -/
def build (lines : List Line) : Option (List (String × Value)) := do
  let draft ← lines.foldlM Line.apply ⟨[], []⟩
  return entriesToValues draft.entries

/-- The table of some assignments between braces. -/
def inlineTable (assignments : List (List String × String × Value)) : Option Value := do
  let entries ← assignments.foldlM (fun es a => assign a.1 a.2.1 a.2.2 .header es) []
  return .table (entriesToValues entries)

end Replica.Toml
