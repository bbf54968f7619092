import Replica.Disk.Staging

/-!
# Putting a file in the place of another

* `replaceFile`: the file at one path becomes the file at another, in one step. Where the two are
  on different file systems, a copy beside the destination takes its place, and then the source is
  removed;
* `copyIntoPlace`: the part across file systems.

Both answer with the cause for which a source was left behind, if it was.
-/

namespace Replica.Disk

/-- Copy a file to a temporary file beside its destination and move that over the destination. -/
def copyOver (d : Disk) (src dest : String) (staged : TempFile) : Except IoError Disk :=
  match d.copyFile src staged.path with
  | .error e => .error e
  | .ok d' => d'.rename staged.path dest

/-- Remove a path, or tell why it is still there. -/
def unlinkOrKeep (d : Disk) (path : String) : Disk × Option IoError :=
  match d.unlink path with
  | .ok d' => (d', none)
  | .error e => (d, some e)

/-- Replace a file by one from another file system, which is removed afterwards. -/
def copyIntoPlace (d : Disk) (src dest : String) : Disk × Except FileError (Option IoError) :=
  match d.createTemp ((Path.parent? dest).getD ".") {} with
  | .error e => (d, .error e)
  | .ok (d₁, staged) =>
    match d₁.copyOver src dest staged with
    | .error e => (d₁.dropTemp staged, .error (.replace src dest e))
    | .ok d₂ =>
      match d₂.closeTemp staged with
      | (d₃, .error e) => (d₃, .error e)
      | (d₃, .ok ()) => ((d₃.unlinkOrKeep src).1, .ok (d₃.unlinkOrKeep src).2)

/-- **Replace a file**, which may not be a directory, by another. -/
def replaceFile (d : Disk) (src dest : String) : Disk × Except FileError (Option IoError) :=
  if d.isDir dest then (d, .error (.isDirectory dest))
  else
    match d.rename src dest with
    | .ok d' => (d', .ok none)
    | .error .crossesDevices => d.copyIntoPlace src dest
    | .error e => (d, .error (.replace src dest e))

end Replica.Disk
