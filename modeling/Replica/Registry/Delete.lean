import Replica.Duration
import Replica.Registry.Client

/-!
# Two ways to delete tags

* `fastDelete`: by name, one call a tag, perhaps with a limit on the time of all calls together;
* `slowDelete`: every tag is pointed at an empty manifest, and then that manifest is deleted by its
  digest with the tags that point at it.

Both answer with the tags for which the registry was positive, in the order of the request. A tag
that the registry refuses, or does not answer for, is left out.
-/

namespace Replica

/-- Why no tag is deleted. -/
inductive DeleteError where
  | noTags
  | notDeleted
  | noManifest
  | timeout (count : Nat)
  deriving DecidableEq

/-- The text of an error in a response. -/
def DeleteError.message : DeleteError → String
  | noTags => "not tags specified"
  | notDeleted => "could not delete tags"
  | noManifest => "could not generate manifest"
  | timeout _ => "Timeout while deleting tags"

/-- A way to delete tags. -/
inductive Strategy where
  | fast (limit? : Option Duration)
  | slow
  deriving DecidableEq

/-- The tags that are deleted, or why there are none. -/
abbrev DeleteOutcome : Type := Except DeleteError (List String)

/-! ## Time limits -/

/-- The last millisecond that the clock counts, `2 ^ 64 - 3`. -/
def lastTick : Nat := 0xfffffffffffffffd

/-- The milliseconds after which a limit ends. One that ends at the last tick of the clock or after
it never does. -/
def Duration.ticks? (limit : Duration) : Option Nat :=
  let ticks := (limit.toNanos + 999999) / 1000000
  if ticks < lastTick then some ticks else none

/-- A delay takes longer than what is left of a limit. -/
def isLonger (delay : Nat) : Option Nat → Bool
  | some left => left < delay
  | none => false

section

variable {σ μ : Type}

/-! ## By name -/

/-- What is told about the answer for a tag. -/
def deleteEvents (tag : String) : Except String Bool → List RegistryEvent
  | .ok true => []
  | .ok false => [.deleteRefused tag]
  | .error e => [.deleteFailed tag e]

/-- The tags that a positive answer adds. -/
def tagIfDeleted (tag : String) : Except String Bool → List String
  | .ok true => [tag]
  | _ => []

/-- Delete tag after tag. Nothing comes of it if the time that is left does not suffice: then the
call under way is the last one, and its answer is not waited for. -/
def deleteEach (r : Registry σ μ) (path : String) (left? : Option Nat) :
    List String → σ → Work σ μ (Option (List String))
  | [], s => ⟨s, [], [], some []⟩
  | tag :: tags, s =>
    let answer := r.deleteTagByName path tag s
    if isLonger answer.2.delay left? then
      ⟨answer.1, [.deleteTagByName path tag], [], none⟩
    else
      let rest := deleteEach r path (left?.map (· - answer.2.delay)) tags answer.1
      { state := rest.state
        calls := .deleteTagByName path tag :: rest.calls
        events := deleteEvents tag answer.2.answer ++ rest.events
        outcome := rest.outcome.map (tagIfDeleted tag answer.2.answer ++ ·) }

/-- The outcome of a deletion by name of this many tags. -/
def fastOutcome (count : Nat) : Option (List String) → DeleteOutcome
  | none => .error (.timeout count)
  | some [] => .error .notDeleted
  | some deleted => .ok deleted

/-- **Delete by name.** -/
def fastDelete (r : Registry σ μ) (limit? : Option Duration) (path : String) (tags : List String)
    (s : σ) : Work σ μ DeleteOutcome :=
  (deleteEach r path (limit?.bind Duration.ticks?) tags s).map (fastOutcome tags.length)

/-! ## By digest -/

/-- What is told about the answer for a tag. -/
def putEvents (tag : String) : Except String (Option String) → List RegistryEvent
  | .ok (some _) => []
  | .ok none => [.noDigest tag]
  | .error e => [.putFailed tag e]

/-- The tag with its digest, if the answer has one. -/
def tagWithDigest (tag : String) : Except String (Option String) → List (String × String)
  | .ok (some digest) => [(tag, digest)]
  | _ => []

/-- Point tag after tag at a manifest. The outcome has those that point at it, and the digests. -/
def putEach (r : Registry σ μ) (path : String) (manifest : μ) :
    List String → σ → Work σ μ (List (String × String))
  | [], s => ⟨s, [], [], []⟩
  | tag :: tags, s =>
    let answer := r.putTag path tag manifest s
    let rest := putEach r path manifest tags answer.1
    { state := rest.state
      calls := .putTag path tag manifest :: rest.calls
      events := putEvents tag answer.2.answer ++ rest.events
      outcome := tagWithDigest tag answer.2.answer ++ rest.outcome }

/-- What is told about the digests of the tags. -/
def digestEvents (digest : String) (others : List (String × String)) : List RegistryEvent :=
  if others.any fun e => e.2 != digest then [.severalDigests] else []

/-- The outcome of deleting the digest of some tags, and what is told about it. -/
def digestOutcome (digest : String) (tags : List String) :
    Except String Bool → List RegistryEvent × DeleteOutcome
  | .ok true => ([], .ok tags)
  | .ok false => ([], .error .notDeleted)
  | .error e => ([.digestDeleteFailed digest e], .error .notDeleted)

/-- Delete the manifest that tags point at: the one with the first digest. -/
def deleteDigest (r : Registry σ μ) (path : String) (replaced : List (String × String)) (s : σ) :
    Work σ μ DeleteOutcome :=
  match replaced with
  | [] => ⟨s, [], [], .error .notDeleted⟩
  | first :: others =>
    let answer := r.deleteTagByDigest path first.2 s
    let out := digestOutcome first.2 ((first :: others).map (·.1)) answer.2.answer
    ⟨answer.1, [.deleteTagByDigest path first.2], digestEvents first.2 others ++ out.1, out.2⟩

/-- Make the empty manifest. -/
def makeManifest (r : Registry σ μ) (path : String) (s : σ) : Work σ μ (Option μ) :=
  let answer := r.generateEmptyManifest path s
  let calls := [.generateEmptyManifest path]
  match answer.2.answer with
  | .ok manifest? => ⟨answer.1, calls, [], manifest?⟩
  | .error e => ⟨answer.1, calls, [.manifestFailed e], none⟩

/-- **Delete by digest.** -/
def slowDelete (r : Registry σ μ) (path : String) (tags : List String) (s : σ) :
    Work σ μ DeleteOutcome :=
  (makeManifest r path s).andThen fun manifest? s =>
    match manifest? with
    | none => ⟨s, [], [], .error .noManifest⟩
    | some manifest => (putEach r path manifest tags s).andThen fun replaced s =>
      deleteDigest r path replaced s

/-! ## Either -/

/-- Delete tags in the given way. -/
def Strategy.delete (strategy : Strategy) (r : Registry σ μ) (path : String) (tags : List String)
    (s : σ) : Work σ μ DeleteOutcome :=
  match strategy with
  | fast limit? => fastDelete r limit? path tags s
  | slow => slowDelete r path tags s

end

end Replica
