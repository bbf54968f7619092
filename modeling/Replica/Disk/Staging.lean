import Replica.Disk.Call

/-!
# Temporary files

A temporary file has a new name: a given beginning and a suffix behind it. The suffixes are tried
as they are drawn, and the first whose name is free is taken.

* `TempOptions`: how the name begins, and the mode that is asked for;
* `TempFile`: the absolute path of a temporary file, and the file that is open behind it. The file
  can be written and measured after the path has gone;
* **`Disk.createTemp`**, `Disk.appendTemp`, `Disk.tempSize`, `Disk.closeTemp`, `Disk.dropTemp`.
-/

namespace Replica

/-- How the name of a temporary file begins, if nothing else is asked for. -/
def tempPrefix : String := "tmp_"

/-- What is asked of a temporary file. -/
structure TempOptions where
  beginning : String := tempPrefix
  /-- The permission bits. -/
  mode : Nat := defaultMode

instance : Inhabited TempOptions := ⟨{}⟩

/-- What the owner may do with the file; the environment may take away the other bits. -/
def TempOptions.ownerMode (o : TempOptions) : Nat := o.mode &&& 0o700

/-- An open temporary file. -/
structure TempFile where
  path : String
  /-- The number of the content. -/
  id : Nat
  /-- Where the next octets are written. -/
  offset : Nat

/-! ## Names -/

namespace Disk

/-- A directory as an absolute path. A working directory that has been removed has none. -/
def absolutePath (d : Disk) (dir : String) : Except IoError String :=
  if Path.isAbsolute dir then .ok dir
  else if d.lost = 0 then .ok (Path.join (placeText d.workingDir) dir)
  else .error .noEntry

/-- The path of the temporary file with the `n`-th suffix. -/
def tempPath (d : Disk) (dir beginning : String) (n : Nat) : String :=
  Path.join dir (beginning ++ d.draw n)

/-- Try the suffixes from the `n`-th on, `limit` of them. -/
def createTempFrom (d : Disk) (dir : String) (options : TempOptions) (n : Nat) :
    Nat → Except IoError (Disk × TempFile)
  | 0 => .error (.atPath .namesExhausted dir)
  | limit + 1 =>
    let path := d.tempPath dir options.beginning n
    match d.createNew path options.mode with
    | .ok (d', id) => .ok (d', ⟨path, id, 0⟩)
    | .error .alreadyExists => createTempFrom d dir options (n + 1) limit
    | .error e => .error (.atPath e path)

/-- **A new temporary file** in a directory. Of more different suffixes than there are entries, one
is free. -/
def createTemp (d : Disk) (dir : String) (options : TempOptions) :
    Except FileError (Disk × TempFile) :=
  match d.absolutePath dir with
  | .error e => .error (.tempFile dir e)
  | .ok there =>
    (d.createTempFrom there options 0 (d.entries.length + 1)).mapError (.tempFile dir)

/-! ## Work on an open file -/

/-- Write octets behind those that were written before. -/
def appendTemp (d : Disk) (t : TempFile) (bs : Bytes) : Disk × TempFile :=
  (d.setContent t.id (overwrite (d.content t.id) t.offset bs),
    { t with offset := t.offset + bs.length })

/-- The size of the file in octets, wherever it is by now. -/
def tempSize (d : Disk) (t : TempFile) : Nat := (d.content t.id).length

/-- Close the file and remove its path. One that has gone already needs no removal. -/
def closeTemp (d : Disk) (t : TempFile) : Disk × Except FileError Unit :=
  match d.unlink t.path with
  | .ok d' => (d', .ok ())
  | .error .noEntry => (d, .ok ())
  | .error e => (d, .error (.remove t.path (.atPath e t.path)))

/-- Close the file and remove its path if that is possible. -/
def dropTemp (d : Disk) (t : TempFile) : Disk := (d.closeTemp t).1

end Disk

end Replica
