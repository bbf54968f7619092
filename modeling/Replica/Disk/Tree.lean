import Replica.Bytes
import Replica.Disk.Error
import Replica.Disk.Path

/-!
# The tree of files

* `Place`: where something stands, by the names from the root down;
* `FileBody`: the content of a file and its mode, which says whether the owner may read and write;
* `suffix`: the end of the name of a temporary file, six letters or digits;
* `Disk`: the entries at the places, and the files by number. A file keeps its number when it is
  moved, and its content when it is unlinked, for whoever holds it open;
* `Disk.item?`: what an observer sees at a place;
* `Disk.walk`: where steps lead in the tree, through directories and symbolic links;
* `Disk.walkFrom`: where they lead from the working directory, which may have been removed. Nothing
  is in it any more, but a path can still lead to it, and through it to the directory above it;
* `Disk.resolve`, `Disk.locate`: a path followed to its end, and a path whose last part only names
  an entry of a directory.
-/

namespace Replica

/-- The names from the root to something in the tree. -/
abbrev Place : Type := List String

/-- What a directory holds under a name. -/
inductive Entry where
  | directory
  /-- A file, by the number of its content. -/
  | file (id : Nat)
  | link (target : String)
  deriving DecidableEq

/-- What an observer sees at a place. -/
inductive Item where
  | directory
  | file (content : Bytes)
  | link (target : String)
  deriving DecidableEq

/-- The permission bits of a file for which nothing else is asked. -/
def defaultMode : Nat := 0o666

/-- The bit of a mode with which the owner may read. -/
def ownerRead : Nat := 0o400

/-- The bit of a mode with which the owner may write. -/
def ownerWrite : Nat := 0o200

/-- A file by itself, whatever it is called. -/
structure FileBody where
  content : Bytes := []
  /-- The permission bits. -/
  mode : Nat := defaultMode
  deriving DecidableEq

instance : Inhabited FileBody := ⟨{}⟩

/-- Where a path can lead: to a place of the tree, or to a directory that was removed from its
place while it was the working directory or above it. -/
inductive Spot where
  | place (p : Place)
  | removed (p : Place)
  deriving DecidableEq

/-- The place, or the one from which the directory was removed. -/
def Spot.asPlace : Spot → Place
  | place p => p
  | removed p => p

/-- The letters and digits of a suffix. -/
def suffixAlphabet : List Char :=
  "0123456789abcdefghijklmnopqrstuvwxyzABCDEFGHIJKLMNOPQRSTUVWXYZ".toList

/-- A number in base 62, in a fixed count of letters and digits. -/
def suffixDigits : Nat → Nat → List Char
  | 0, _ => []
  | count + 1, n => suffixDigits count (n / 62) ++ [(suffixAlphabet[n % 62]?).getD '0']

/-- The suffix of this number. -/
def suffix (n : Nat) : String := String.ofList (suffixDigits 6 n)

/-- A tree of files on one or several file systems. -/
structure Disk where
  /-- The entries below the root; the first one at a place counts. A file can have several. -/
  entries : List (Place × Entry)
  /-- All files that were ever made. -/
  files : List FileBody
  /-- Where relative paths begin. -/
  workingDir : Place
  /-- How many of the last names of `workingDir` are those of directories that have been removed. A
  directory that is made again under such a name is another one. -/
  lost : Nat := 0
  /-- The directories where other file systems than that of the root begin. -/
  mounts : List Place
  /-- The suffixes that are drawn, one after the other, for the name of a temporary file. -/
  draw : Nat → String := suffix

namespace Disk

/-- The root alone. -/
def empty : Disk where
  entries := []
  files := []
  workingDir := []
  mounts := []

instance : Inhabited Disk := ⟨empty⟩

/-! ## Entries -/

/-- The entry at a place in a list of entries. -/
def find? (p : Place) : List (Place × Entry) → Option Entry
  | [] => none
  | e :: rest => if e.1 = p then some e.2 else find? p rest

/-- The entry at a place; the root is a directory. -/
def get? (d : Disk) (p : Place) : Option Entry :=
  if p = [] then some .directory else find? p d.entries

/-- The entry that a path led to. What was removed from its place is a directory. -/
def entryAt? (d : Disk) : Spot → Option Entry
  | .place p => d.get? p
  | .removed _ => some .directory

/-- A file by its number. -/
def body (d : Disk) (id : Nat) : FileBody := (d.files[id]?).getD {}

/-- The content of a file. -/
def content (d : Disk) (id : Nat) : Bytes := (d.body id).content

/-- The owner may read the file. -/
def isReadable (d : Disk) (id : Nat) : Bool := (d.body id).mode &&& ownerRead != 0

/-- The owner may write the file. -/
def isWritable (d : Disk) (id : Nat) : Bool := (d.body id).mode &&& ownerWrite != 0

/-- What stands at a place. -/
def item? (d : Disk) (p : Place) : Option Item :=
  (d.get? p).map fun
    | .directory => .directory
    | .file id => .file (d.content id)
    | .link target => .link target

/-- The tree with an entry at a place, whatever stood there. -/
def put (d : Disk) (p : Place) (e : Entry) : Disk :=
  { d with entries := (p, e) :: d.entries.filter fun x => x.1 ≠ p }

/-- The tree without anything at a place or below it. -/
def prune (d : Disk) (p : Place) : Disk :=
  { d with entries := d.entries.filter fun x => !p.isPrefixOf x.1 }

/-- The tree with everything at and below one place moved to another, where nothing is left. -/
def graft (d : Disk) (src dest : Place) : Disk :=
  { d with
    entries := (d.prune dest).entries.map fun x =>
      if src.isPrefixOf x.1 then (dest ++ x.1.drop src.length, x.2) else x }

/-- The part of the working directory's place that has not been removed. -/
def liveDir (d : Disk) : Place := d.workingDir.take (d.workingDir.length - d.lost)

/-- The working directory after everything at and below a place was removed. -/
def loseDir (d : Disk) (p : Place) : Disk :=
  if p.isPrefixOf d.liveDir then { d with lost := d.workingDir.length + 1 - p.length } else d

/-- The working directory after everything at and below one place was moved to another. -/
def moveDir (d : Disk) (src dest : Place) : Disk :=
  if src.isPrefixOf d.liveDir then
    { d with workingDir := dest ++ d.workingDir.drop src.length }
  else d

/-- The mounts after everything at and below one place was moved to another. -/
def moveMounts (d : Disk) (src dest : Place) : Disk :=
  { d with
    mounts := d.mounts.map fun m =>
      if src.isPrefixOf m then dest ++ m.drop src.length else m }

/-- Something stands below the place. -/
def hasChildren (d : Disk) (p : Place) : Bool :=
  d.entries.any fun x => p.isPrefixOf x.1 && x.1 != p

/-- The names in a directory. -/
def names (d : Disk) (dir : Place) : List String :=
  d.entries.filterMap fun x =>
    match x.1.getLast? with
    | some name => if x.1.dropLast = dir then some name else none
    | none => none

/-- The file system of a place: the mount it stands at or below, the innermost first in the
list. -/
def fileSystem (d : Disk) (p : Place) : Option Place := d.mounts.find? fun m => m.isPrefixOf p

/-- Another file system begins at the place. -/
def isMount (d : Disk) (p : Place) : Bool := d.mounts.contains p

/-- One file stands at both places. -/
def sharesFile (d : Disk) (p q : Place) : Bool :=
  match d.get? p, d.get? q with
  | some (.file id), some (.file id') => id == id'
  | _, _ => false

/-! ## Files -/

/-- A new file without content, and its number. -/
def newFile (d : Disk) (mode : Nat) : Disk × Nat :=
  ({ d with files := d.files ++ [{ mode }] }, d.files.length)

/-- A file with another content. Where there is no file of the number, nothing changes. -/
def setContent (d : Disk) (id : Nat) (bs : Bytes) : Disk :=
  { d with files := d.files.set id { d.body id with content := bs } }

/-- A file with another mode. -/
def setMode (d : Disk) (id : Nat) (mode : Nat) : Disk :=
  { d with files := d.files.set id { d.body id with mode } }

/-- Octets written over a content from an offset on; a gap before the offset is filled with
zeros. -/
def overwrite (old : Bytes) (offset : Nat) (bs : Bytes) : Bytes :=
  if old.length ≤ offset then old ++ (List.replicate (offset - old.length) 0 ++ bs)
  else old.take offset ++ bs ++ old.drop (offset + bs.length)

/-! ## Where a path leads -/

/-- The longest name of an entry, in octets. -/
def maxName : Nat := 255

/-- The length in octets from which on a path is too long. -/
def maxPath : Nat := 4096

/-- The number of symbolic links that one path may lead through. -/
def maxLinks : Nat := 40

/-- No entry can have such a name. -/
def isTooLong (name : String) : Bool := maxName < name.utf8ByteSize

/-- Where the steps of a path begin. -/
def start (here : Place) (path : String) : Place := if Path.isAbsolute path then [] else here

/-- Where some steps lead from a directory. A file can only be the last step. With `missing`, the
last step may name an entry that is not there. What a symbolic link leads to, with the steps behind
it, is left to `follow`. -/
def walkWith (d : Disk) (missing : Bool) (follow : Place → List String → Except IoError Place) :
    Place → List String → Except IoError Place
  | here, [] => .ok here
  | here, step :: rest =>
    if step = "." then walkWith d missing follow here rest
    else if step = ".." then walkWith d missing follow here.dropLast rest
    else if isTooLong step then .error .nameTooLong
    else
      match d.get? (here ++ [step]) with
      | none => if missing && rest.isEmpty then .ok (here ++ [step]) else .error .noEntry
      | some .directory => walkWith d missing follow (here ++ [step]) rest
      | some (.file _) => if rest.isEmpty then .ok (here ++ [step]) else .error .notDirectory
      | some (.link target) => follow (start here target) (Path.steps target ++ rest)

/-- Where some steps lead through at most `links` symbolic links. -/
def walk (d : Disk) (missing : Bool) (links : Nat) : Place → List String → Except IoError Place :=
  match links with
  | 0 => walkWith d missing fun _ _ => .error .tooManyLinks
  | left + 1 => walkWith d missing (walk d missing left)

/-- Where some steps lead from a directory that has been removed, if `lost` is not zero, with all
but `lost - 1` of those above it. -/
def walkFrom (d : Disk) (missing : Bool) : Nat → Place → List String → Except IoError Spot
  | 0, here, steps => (d.walk missing maxLinks here steps).map .place
  | _ + 1, here, [] => .ok (.removed here)
  | lost + 1, here, step :: rest =>
    if step = "." then walkFrom d missing (lost + 1) here rest
    else if step = ".." then walkFrom d missing lost here.dropLast rest
    else .error .noEntry

/-- Where the steps of a path lead from where the path begins. -/
def walkPath (d : Disk) (missing : Bool) (path : String) (steps : List String) :
    Except IoError Spot :=
  d.walkFrom missing (if Path.isAbsolute path then 0 else d.lost) (start d.workingDir path) steps

/-- Paths that no system call accepts. -/
def check (path : String) : Except IoError Unit :=
  if path.toList.contains '\x00' then .error .nulInPath
  else if path.isEmpty then .error .noEntry
  else if maxPath ≤ path.utf8ByteSize then .error .nameTooLong
  else .ok ()

/-- **Where a path leads**, every symbolic link being followed. -/
def resolve (d : Disk) (path : String) : Except IoError Spot :=
  match check path with
  | .error e => .error e
  | .ok () => d.walkPath false path (Path.steps path)

/-- The same, but the last step may be missing. -/
def resolveOrMissing (d : Disk) (path : String) : Except IoError Spot :=
  match check path with
  | .error e => .error e
  | .ok () => d.walkPath true path (Path.steps path)

/-- An entry as a path names it: a name in a directory, with or without a slash behind it; a name
in a directory that has been removed, where nothing can be; or no name at all, where the path ends
in `.` or `..` or is the root. -/
inductive Target where
  | entry (dir : Place) (name : String) (slash : Bool)
  | gone (dir : Place)
  | unnamed (dir : Place)
  deriving DecidableEq

/-- The directory that holds the entry. -/
def Target.dir : Target → Place
  | entry dir _ _ => dir
  | gone dir => dir
  | unnamed dir => dir

/-- **The entry that a path names**; a symbolic link at its end is not followed. -/
def locate (d : Disk) (path : String) : Except IoError Target :=
  match check path with
  | .error e => .error e
  | .ok () =>
    let parts := Path.parts path
    match d.walkPath false path (parts.dropLast ++ ["."]) with
    | .error e => .error e
    | .ok dir =>
      match parts.getLast? with
      | none => .ok (.unnamed dir.asPlace)
      | some name =>
        if name = "." ∨ name = ".." then .ok (.unnamed dir.asPlace)
        else
          match dir with
          | .place p => .ok (.entry p name (Path.endsInSlash path))
          | .removed p => .ok (.gone p)

/-- A path leads to a directory. -/
def isDir (d : Disk) (path : String) : Bool :=
  match d.resolve path with
  | .ok spot => d.entryAt? spot == some .directory
  | .error _ => false

/-- A path leads to something. -/
def pathExists (d : Disk) (path : String) : Bool := (d.resolve path).toOption.isSome

/-- The text of an absolute path to a place. -/
def placeText (p : Place) : String := "/" ++ String.intercalate "/" p

end Disk

end Replica
