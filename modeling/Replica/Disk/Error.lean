import Replica.Text

/-!
# Errors of file operations

* `IoError`: what an operating system, or the reading of a file, answers instead of doing its work;
* `FileError`: what a file operation of this library reports, with the paths it was about.
-/

namespace Replica

/-- The cause of a failed operation on files. -/
inductive IoError where
  | noEntry
  | accessDenied
  | busy
  | alreadyExists
  | crossesDevices
  | notDirectory
  | isDirectory
  | invalid
  | nameTooLong
  | notEmpty
  | tooManyLinks
  | nulInPath
  | notRegular
  | notUtf8
  | namesExhausted
  | other (text : String)
  /-- The same, and the path of the temporary file it is about. -/
  | atPath (cause : IoError) (path : String)
  deriving DecidableEq

namespace IoError

/-- The cause without the path it is about. -/
def cause : IoError → IoError
  | atPath e _ => e.cause
  | e => e

/-- The text of a cause. -/
def message : IoError → String
  | noEntry => "No such file or directory (os error 2)"
  | accessDenied => "Permission denied (os error 13)"
  | busy => "Device or resource busy (os error 16)"
  | alreadyExists => "File exists (os error 17)"
  | crossesDevices => "Invalid cross-device link (os error 18)"
  | notDirectory => "Not a directory (os error 20)"
  | isDirectory => "Is a directory (os error 21)"
  | invalid => "Invalid argument (os error 22)"
  | nameTooLong => "File name too long (os error 36)"
  | notEmpty => "Directory not empty (os error 39)"
  | tooManyLinks => "Too many levels of symbolic links (os error 40)"
  | nulInPath => "file name contained an unexpected NUL byte"
  | notRegular => "the source path is neither a regular file nor a symlink to a regular file"
  | notUtf8 => "stream did not contain valid UTF-8"
  | namesExhausted => "too many temporary files exist"
  | other text => text
  | atPath e path => e.message ++ " at path " ++ Text.quoted path

end IoError

/-- A failed file operation. -/
inductive FileError where
  | createDir (path : String) (source : IoError)
  | tempFile (dir : String) (source : IoError)
  | replace (src dest : String) (source : IoError)
  | remove (path : String) (source : IoError)
  | isDirectory (path : String)
  | io (source : IoError)
  deriving DecidableEq

/-- The text of a failed operation. -/
def FileError.message : FileError → String
  | createDir path source => "failed to create directory " ++ path ++ ": " ++ source.message
  | tempFile dir source => "failed to create temporary file in " ++ dir ++ ": " ++ source.message
  | replace src dest source =>
    "failed to replace " ++ dest ++ " with " ++ src ++ ": " ++ source.message
  | remove path source => "failed to remove " ++ path ++ ": " ++ source.message
  | isDirectory path => path ++ " is a directory"
  | io source => source.message

end Replica
