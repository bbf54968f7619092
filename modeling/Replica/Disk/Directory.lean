import Replica.Disk.Call

/-!
# Directories that have to be there

* `makeDirs`: the directory at the head of a list of paths, after those behind it in the list that
  are missing;
* `ensureDir`: a directory with everything above it. One that is there already is left alone;
* `ensureParentDir`: the directory that is to hold a path, if the path names one.
-/

namespace Replica.Disk

/-- Make a directory; one that is there already is as good. -/
def makeDirOrFind (d : Disk) (path : String) : Disk × Except IoError Unit :=
  match d.makeDir path with
  | .ok d' => (d', .ok ())
  | .error e => if d.isDir path then (d, .ok ()) else (d, .error e)

/-- Make the first of these directories. If an entry above it is missing, make the others before
it, the last one first. The empty path needs nothing. -/
def makeDirs (d : Disk) : List String → Disk × Except IoError Unit
  | [] => (d, .ok ())
  | path :: above =>
    if path.isEmpty then (d, .ok ())
    else
      match d.makeDir path with
      | .error .noEntry =>
        match d.makeDirs above with
        | (d', .ok ()) => d'.makeDirOrFind path
        | (d', .error e) => (d', .error e)
      | _ => d.makeDirOrFind path

/-- **Make sure that a directory is there**, and everything above it. -/
def ensureDir (d : Disk) (path : String) : Disk × Except FileError Unit :=
  if d.isDir path then (d, .ok ())
  else
    let r := d.makeDirs (Path.ancestors path)
    (r.1, r.2.mapError (.createDir path))

/-- Make sure that the directory is there that is to hold a path. -/
def ensureParentDir (d : Disk) (path : String) : Disk × Except FileError Unit :=
  match Path.parent? path with
  | some parent => if parent.isEmpty then (d, .ok ()) else d.ensureDir parent
  | none => (d, .ok ())

end Replica.Disk
