import Replica.Config.Text
import Replica.Disk.Call

/-!
# Loading the configuration

The configuration of a node is read from a file, if there is one, and then overridden from the
environment. A node without a file runs on the environment alone.
-/

namespace Replica

/-- Why no configuration can be loaded. -/
inductive LoadError where
  | read (path : String) (source : IoError)
  | parse (e : ParseError)
  | unknownRole (name : String)

/-- The text of an error; what is wrong with a text that is no document is not told. -/
def LoadError.message? : LoadError → Option String
  | read path source => some ("failed to read config " ++ path ++ ": " ++ source.message)
  | parse e => e.message?
  | unknownRole name => some (Role.unknownMessage name)

/-- The text in a file. -/
def Disk.readText (d : Disk) (path : String) : Except IoError String :=
  match d.readAt path with
  | .error e => .error e
  | .ok bs =>
    match bs.text? with
    | some s => .ok s
    | none => .error .notUtf8

namespace Config

/-- The configuration in a file, or the default one if the path leads nowhere. -/
def ofFile (d : Disk) (path : String) : Except LoadError Config :=
  if d.pathExists path then
    match d.readText path with
    | .error e => .error (.read path e)
    | .ok source => (parse source).mapError .parse
  else .ok {}

/-- **The configuration of a node**, from a file and the environment. -/
def load (d : Disk) (path : String) (env : String → Option String) : Except LoadError Config :=
  match ofFile d path with
  | .error e => .error e
  | .ok c => (c.override env).mapError .unknownRole

end Config

end Replica
