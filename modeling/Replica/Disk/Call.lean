import Replica.Disk.Tree

/-!
# System calls

The single operations of an operating system on the tree. Each either gives the changed tree or
fails and changes nothing.

* `makeDir`, `createNew`, `symlink`, `unlink`, `readAt`, `writeAt`, `removeAll`;
* `rename`: moves an entry over another in one step, within one file system. Two entries of one file
  are left alone, and so is a directory where another file system begins;
* `copyFile`: the content of one file into another, which gets its mode too.

What a file holds is read and written as its owner: the mode of the file may forbid it. The working
directory may be removed or moved with what is above it. In one that has been removed nothing can be
found or made.
-/

namespace Replica.Disk

/-- Add an entry under a name that is not yet taken. -/
def addEntry (d : Disk) (dir : Place) (name : String) (e : Entry) : Except IoError Disk :=
  if isTooLong name then .error .nameTooLong
  else if (d.get? (dir ++ [name])).isSome then .error .alreadyExists
  else .ok (d.put (dir ++ [name]) e)

/-- Make a directory. -/
def makeDir (d : Disk) (path : String) : Except IoError Disk :=
  match d.locate path with
  | .error e => .error e
  | .ok (.unnamed _) => .error .alreadyExists
  | .ok (.gone _) => .error .noEntry
  | .ok (.entry dir name _) => d.addEntry dir name .directory

/-- Make an empty file where nothing stands. Whoever makes it may write it, whatever its mode. -/
def createNew (d : Disk) (path : String) (mode : Nat) : Except IoError (Disk × Nat) :=
  match d.locate path with
  | .error e => .error e
  | .ok (.unnamed _) => .error .isDirectory
  | .ok (.gone _) => .error .noEntry
  | .ok (.entry dir name slash) =>
    if slash then .error .isDirectory
    else
      let made := d.newFile mode
      (made.1.addEntry dir name (.file made.2)).map fun d' => (d', made.2)

/-- Make a symbolic link. -/
def symlink (d : Disk) (target path : String) : Except IoError Disk :=
  match check target, d.locate path with
  | .error e, _ => .error e
  | _, .error e => .error e
  | _, .ok (.unnamed _) => .error .alreadyExists
  | _, .ok (.gone _) => .error .noEntry
  | _, .ok (.entry dir name slash) =>
    if slash then .error .noEntry else d.addEntry dir name (.link target)

/-- Remove the entry of a file or of a symbolic link. -/
def unlink (d : Disk) (path : String) : Except IoError Disk :=
  match d.locate path with
  | .error e => .error e
  | .ok (.unnamed _) => .error .isDirectory
  | .ok (.gone _) => .error .noEntry
  | .ok (.entry dir name slash) =>
    if isTooLong name then .error .nameTooLong
    else
      match d.get? (dir ++ [name]) with
      | none => .error .noEntry
      | some .directory => .error .isDirectory
      | some _ => if slash then .error .notDirectory else .ok (d.prune (dir ++ [name]))

/-- The file that a path leads to, by its number. -/
def fileAt (d : Disk) (path : String) : Except IoError Nat :=
  match d.resolve path with
  | .error e => .error e
  | .ok spot =>
    match d.entryAt? spot with
    | some (.file id) => .ok id
    | _ => .error .isDirectory

/-- The content of a file. -/
def readAt (d : Disk) (path : String) : Except IoError Bytes :=
  match d.fileAt path with
  | .error e => .error e
  | .ok id => if d.isReadable id then .ok (d.content id) else .error .accessDenied

/-- Give a file this content, and make the file if it is not there. The file is the outcome too. -/
def writeTo (d : Disk) (path : String) (mode : Nat) (bs : Bytes) :
    Except IoError (Disk × Nat) :=
  match d.resolveOrMissing path with
  | .error e => .error e
  | .ok (.removed _) => .error .isDirectory
  | .ok (.place p) =>
    match d.get? p with
    | some (.file id) =>
      if d.isWritable id then .ok (d.setContent id bs, id) else .error .accessDenied
    | some _ => .error .isDirectory
    | none =>
      let made := d.newFile mode
      .ok ((made.1.put p (.file made.2)).setContent made.2 bs, made.2)

/-- Give a file this content, and make the file if it is not there. -/
def writeAt (d : Disk) (path : String) (bs : Bytes) : Except IoError Disk :=
  (d.writeTo path defaultMode bs).map (·.1)

/-- Copy the content of a file and its mode into another one. -/
def copyFile (d : Disk) (src dest : String) : Except IoError Disk :=
  match d.fileAt src with
  | .error .isDirectory => .error .notRegular
  | .error e => .error e
  | .ok id =>
    if d.isReadable id then
      let mode := (d.body id).mode
      (d.writeTo dest mode (d.content id)).map fun r => r.1.setMode r.2 mode
    else .error .accessDenied

/-- Remove whatever a path names, and everything below it. -/
def removeAll (d : Disk) (path : String) : Except IoError Disk :=
  match d.locate path with
  | .error e => .error e
  | .ok (.unnamed _) => .error .invalid
  | .ok (.gone _) => .error .noEntry
  | .ok (.entry dir name _) => .ok ((d.prune (dir ++ [name])).loseDir (dir ++ [name]))

/-- Move the entry at `src`, which is no directory, over whatever stands at `dest`. -/
def renameFile (d : Disk) (src dest : Place) : Except IoError Disk :=
  match d.get? dest with
  | some .directory => .error .isDirectory
  | _ => .ok (d.graft src dest)

/-- Move the directory at `src`, with the mounts below it, over an empty directory or to where
nothing stands. A mount itself stays where it is. -/
def renameDir (d : Disk) (src dest : Place) : Except IoError Disk :=
  match d.get? dest with
  | some (.file _) => .error .notDirectory
  | some (.link _) => .error .notDirectory
  | held =>
    if d.isMount src ∨ d.isMount dest then .error .busy
    else if held.isSome ∧ d.hasChildren dest then .error .notEmpty
    else .ok ((((d.graft src dest).loseDir dest).moveDir src dest).moveMounts src dest)

/-- The order of the checks of `rename` once both entries are known. Nothing is done if they are
the same, or entries of one file. -/
def renameEntry (d : Disk) (srcDir : Place) (srcName : String) (srcSlash : Bool)
    (destDir : Place) (destName : String) (destSlash : Bool) : Except IoError Disk :=
  let src := srcDir ++ [srcName]
  let dest := destDir ++ [destName]
  if isTooLong srcName then .error .nameTooLong
  else
    match d.get? src with
    | none => .error .noEntry
    | some e =>
      if isTooLong destName then .error .nameTooLong
      else if e ≠ .directory ∧ (srcSlash ∨ destSlash) then .error .notDirectory
      else if src.isPrefixOf destDir then .error .invalid
      else if dest.isPrefixOf srcDir then .error .notEmpty
      else if src = dest ∨ d.sharesFile src dest then .ok d
      else if e = .directory then d.renameDir src dest
      else d.renameFile src dest

/-- **Move an entry** within one file system, over an entry of the other name if there is one. -/
def rename (d : Disk) (src dest : String) : Except IoError Disk :=
  if src.toList.contains '\x00' ∨ dest.toList.contains '\x00' then .error .nulInPath
  else
    match d.locate src, d.locate dest with
    | .error e, _ => .error e
    | _, .error e => .error e
    | .ok s, .ok t =>
      if d.fileSystem s.dir ≠ d.fileSystem t.dir then .error .crossesDevices
      else
        match s, t with
        | .entry srcDir srcName srcSlash, .entry destDir destName destSlash =>
          d.renameEntry srcDir srcName srcSlash destDir destName destSlash
        | .unnamed _, _ => .error .busy
        | _, .unnamed _ => .error .busy
        | .gone _, _ => .error .noEntry
        | .entry _ srcName _, .gone _ =>
          .error (if isTooLong srcName then .nameTooLong else .noEntry)

end Replica.Disk
