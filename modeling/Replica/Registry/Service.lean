import Replica.Config.Basic
import Replica.Registry.Delete

/-!
# Deleting the tags of a repository

* `DeleteService.selectStrategy`: by name if that is enabled and the registry can, by digest
  otherwise. The registry is asked only if it matters;
* `DeleteResponse`: the answer to whoever wants tags deleted;
* **`DeleteService.execute`**.
-/

namespace Replica

/-! ## Responses -/

/-- The answer to a request to delete tags. -/
inductive DeleteResponse where
  | success (deleted : List String)
  | error (message : String)
  deriving DecidableEq

namespace DeleteResponse

/-- The response to what came of a deletion. -/
def ofOutcome : DeleteOutcome → DeleteResponse
  | .ok deleted => success deleted
  | .error e => error e.message

/-- The deletion has succeeded. -/
def isSuccess : DeleteResponse → Bool
  | success _ => true
  | error _ => false

/-- The tags that are gone. -/
def deleted : DeleteResponse → List String
  | success deleted => deleted
  | error _ => []

/-- What went wrong, if it has failed. -/
def message? : DeleteResponse → Option String
  | success _ => none
  | error message => some message

/-- The response as it is sent. -/
def json : DeleteResponse → Json
  | success deleted =>
    .object [("status", .string "success"), ("deleted", .array (deleted.map .string))]
  | error message => .object [("status", .string "error"), ("message", .string message)]

end DeleteResponse

/-! ## The service -/

/-- What deletes tags, with its switches and the limit for a deletion by name. -/
structure DeleteService where
  flags : Flags
  limit : Duration

namespace DeleteService

/-- The service of a configured node; its limit is a number of seconds below `2 ^ 64`. -/
def ofConfig (c : Config) : DeleteService :=
  ⟨c.features, (Duration.ofSecs? c.registry.deleteTagsTimeoutSecs).getD .max⟩

/-- The limit that applies to a deletion by name. -/
def limit? (service : DeleteService) : Option Duration :=
  if service.flags.enabled Flags.throttledTagDelete false then some service.limit else none

variable {σ μ : Type}

/-- **The way to delete tags** of this registry. -/
def selectStrategy (service : DeleteService) (r : Registry σ μ) (s : σ) : Work σ μ Strategy :=
  if service.flags.enabled Flags.fastTagDelete true then
    let answer := r.supportsTagDelete s
    match answer.2.answer with
    | .ok true => ⟨answer.1, [.supportsTagDelete], [], .fast service.limit?⟩
    | .ok false => ⟨answer.1, [.supportsTagDelete], [], .slow⟩
    | .error e => ⟨answer.1, [.supportsTagDelete], [.probeFailed e], .slow⟩
  else ⟨s, [], [], .slow⟩

/-- What is told at the end. -/
def outcomeEvent : DeleteOutcome → RegistryEvent
  | .ok deleted => .deleted deleted.length
  | .error (.timeout count) => .timedOut count
  | .error e => .failed e.message

/-- **Delete the tags** of the repository at a path. -/
def execute (service : DeleteService) (r : Registry σ μ) (path : String) (tags : List String)
    (s : σ) : Work σ μ DeleteResponse :=
  if tags.isEmpty then ⟨s, [], [], .ofOutcome (.error .noTags)⟩
  else
    let w := (service.selectStrategy r s).andThen fun strategy s => strategy.delete r path tags s
    (w.tell (outcomeEvent w.outcome)).map .ofOutcome

end DeleteService

end Replica
