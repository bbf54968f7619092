import Replica.Config.Schema
import Replica.Toml.Printer
import Replica.Toml.Reader

/-!
# Configurations as texts

* `Config.parse`: the configuration that a document describes;
* `Config.render`: the document of a configuration. All four sections are written, options that
  are not set are left out, and no number may be too large for a signed integer of 64 bits.
-/

namespace Replica

/-- Why a text is not a configuration: it is no document at all, or its content does not fit. -/
inductive ParseError where
  | syntaxError
  | schema (e : SchemaError)

/-- The text of an error of the schema. Where a document breaks off, none is told. -/
def ParseError.message? : ParseError → Option String
  | syntaxError => none
  | schema e => some e.message

/-- A number of the configuration does not fit into a document. -/
inductive RenderError where
  | tooLarge
  deriving DecidableEq

/-- The text of the error. -/
def RenderError.message : RenderError → String
  | tooLarge => "out-of-range value for u64 type"

namespace Config

/-- **The configuration that a text describes.** -/
def parse (source : String) : Except ParseError Config :=
  match Toml.read source with
  | none => .error .syntaxError
  | some entries => (ofEntries entries).mapError .schema

open Toml (Plain)

/-- The fields of the four sections, in the order in which they are written. -/
def sections (c : Config) : List (String × List (String × Plain)) :=
  [ ("node",
      [("role", .text c.node.role.name)] ++
        (c.node.primaryUrl?.map fun u => ("primary_url", .text u)).toList),
    ("http",
      [("connect_timeout_secs", .number c.http.connectTimeoutSecs)] ++
        (c.http.timeoutSecs?.map fun n => ("timeout_secs", .number n)).toList ++
        [("max_redirects", .number c.http.maxRedirects)]),
    ("registry", [("delete_tags_service_timeout_secs", .number c.registry.deleteTagsTimeoutSecs)]),
    ("features", c.features.entries.map fun e => (e.1, .flag e.2)) ]

/-- The value can be written. -/
def isWritable : Plain → Bool
  | .number n => decide (n ≤ Toml.maxInteger)
  | _ => true

/-- **The document of a configuration.** -/
def render (c : Config) : Except RenderError String :=
  if c.sections.all fun s => s.2.all fun e => isWritable e.2 then .ok (Toml.document c.sections)
  else .error .tooLarge

end Config

end Replica
