import Replica.Log

/-!
# Container registries

A registry is any system that changes with the calls made to it. An answer can be negative, can be
a text that tells why there is none, and arrives after a delay.

* `Registry`: the five calls, over the states of a registry and its manifests;
* `RegistryCall`: a call as it is recorded, when it begins;
* `RegistryEvent`: what work on a registry tells, and `RegistryEvent.line` its line in a log;
* `Work`: what some work on a registry did, one piece after the other by `Work.andThen`.
-/

namespace Replica

/-- An answer, or a text in its place, that arrives after a delay in milliseconds. -/
structure Timed (α : Type) where
  delay : Nat
  answer : Except String α

instance {α : Type} : Inhabited (Timed α) := ⟨⟨0, .error ""⟩⟩

/-- A registry with states `σ` and manifests `μ`. A call changes the state when it begins. -/
structure Registry (σ μ : Type) where
  /-- The registry can delete tags by name. -/
  supportsTagDelete : σ → σ × Timed Bool
  /-- Delete the tag of this name in the repository at a path. -/
  deleteTagByName : String → String → σ → σ × Timed Bool
  /-- Upload an empty image to a repository and make its manifest. -/
  generateEmptyManifest : String → σ → σ × Timed (Option μ)
  /-- Point a tag at a manifest; the answer is the digest of that. -/
  putTag : String → String → μ → σ → σ × Timed (Option String)
  /-- Delete the manifest of this digest, with every tag that points at it. -/
  deleteTagByDigest : String → String → σ → σ × Timed Bool

/-- A call to a registry. -/
inductive RegistryCall (μ : Type) where
  | supportsTagDelete
  | deleteTagByName (path tag : String)
  | generateEmptyManifest (path : String)
  | putTag (path tag : String) (manifest : μ)
  | deleteTagByDigest (path digest : String)
  deriving DecidableEq

/-! ## Events -/

/-- What work on a registry tells. -/
inductive RegistryEvent where
  | deleteRefused (tag : String)
  | deleteFailed (tag error : String)
  | manifestFailed (error : String)
  | noDigest (tag : String)
  | putFailed (tag error : String)
  /-- The puts of one manifest gave different digests. -/
  | severalDigests
  | digestDeleteFailed (digest error : String)
  | probeFailed (error : String)
  | deleted (count : Nat)
  | timedOut (count : Nat)
  | failed (error : String)
  deriving DecidableEq

/-- The line of an event. -/
def RegistryEvent.line : RegistryEvent → LogLine
  | deleteRefused tag => logLine .debug "registry refused tag delete" [("tag", .string tag)]
  | deleteFailed tag error =>
    logLine .warning "tag delete failed" [("tag", .string tag), ("error", .string error)]
  | manifestFailed error =>
    logLine .warning "failed to generate empty manifest" [("error", .string error)]
  | noDigest tag => logLine .debug "registry did not return a digest" [("tag", .string tag)]
  | putFailed tag error =>
    logLine .warning "failed to replace tag manifest"
      [("tag", .string tag), ("error", .string error)]
  | severalDigests => logLine .warning "multiple tag digests for the same empty manifest" []
  | digestDeleteFailed digest error =>
    logLine .warning "failed to delete empty manifest"
      [("digest", .string digest), ("error", .string error)]
  | probeFailed error =>
    logLine .warning "registry capability check failed, using slow delete"
      [("error", .string error)]
  | deleted count => logLine .info "tags deleted" [("deleted", .number count)]
  | timedOut count =>
    logLine .error "timeout while deleting tags" [("tags_count", .number count)]
  | failed error => logLine .warning "tag deletion failed" [("error", .string error)]

/-! ## Work -/

/-- What some work did: the state it left, the calls it made, what it told, and its outcome. -/
structure Work (σ μ α : Type) where
  state : σ
  calls : List (RegistryCall μ)
  events : List RegistryEvent
  outcome : α

namespace Work

variable {σ μ α β : Type}

/-- Further work, which knows the outcome so far. -/
def andThen (w : Work σ μ α) (next : α → σ → Work σ μ β) : Work σ μ β :=
  let w' := next w.outcome w.state
  ⟨w'.state, w.calls ++ w'.calls, w.events ++ w'.events, w'.outcome⟩

/-- The same work, seen differently. -/
def map (f : α → β) (w : Work σ μ α) : Work σ μ β := ⟨w.state, w.calls, w.events, f w.outcome⟩

/-- The same work, and one more event at its end. -/
def tell (w : Work σ μ α) (e : RegistryEvent) : Work σ μ α := { w with events := w.events ++ [e] }

end Work

end Replica
