import Mathlib.Data.List.Basic
import Replica.Proofs.Registry.Outcome

/-!
# Two ways to the same tags

Deleting by name and deleting by digest ask a registry for different things. Where it would accept
the same tags either way, and all its puts give one digest that it deletes, both report the same.

* `TagAnswer`: what a registry thinks of a tag, whichever way it is asked;
* `Registry.TreatsAlike`: a registry that thinks the same of a tag in every state and either way;
* **`answered_callEach`**: which names are answered positively if the answers do not depend on the
  calls before;
* `outcome_fastDelete`, `outcome_slowDelete`: what each way reports;
* **`strategies_agree`**: they report the same.
-/

namespace Replica

variable {σ μ α : Type}

/-! ## What a registry thinks of a tag -/

/-- The answer for a tag, without what it carries. -/
inductive TagAnswer where
  | positive
  | refused
  | failed
  deriving DecidableEq

namespace TagAnswer

/-- The answer to a deletion by name. -/
def ofDelete : Except String Bool → TagAnswer
  | .ok true => positive
  | .ok false => refused
  | .error _ => failed

/-- The answer to a put. -/
def ofPut : Except String (Option String) → TagAnswer
  | .ok (some _) => positive
  | .ok none => refused
  | .error _ => failed

theorem isDeleted_eq (answer : Except String Bool) :
    isDeleted answer = decide (ofDelete answer = positive) := by
  rcases answer with e | _ | _ <;> rfl

theorem isSome_digest?_eq (answer : Except String (Option String)) :
    (digest? answer).isSome = decide (ofPut answer = positive) := by
  rcases answer with e | _ | digest <;> rfl

end TagAnswer

/-- **A registry that treats tags alike**: what it thinks of a tag is the same for a deletion by
name and for a put, and does not depend on the calls before. It makes manifests, all its puts give
one digest, and it deletes that. Its states and the texts of its errors may be any. -/
structure Registry.TreatsAlike (r : Registry σ μ) (path : String) (answer : String → TagAnswer)
    (digest : String) : Prop where
  byName : ∀ tag s, .ofDelete (r.deleteTagByName path tag s).2.answer = answer tag
  put : ∀ tag manifest s, .ofPut (r.putTag path tag manifest s).2.answer = answer tag
  manifest : ∀ s, ∃ manifest, (r.generateEmptyManifest path s).2.answer = .ok (some manifest)
  digest_eq : ∀ tag manifest s digest', (r.putTag path tag manifest s).2.answer =
    .ok (some digest') → digest' = digest
  deletes : ∀ s, (r.deleteTagByDigest path digest s).2.answer = .ok true

/-- The outcome if these tags are reported. -/
def reported (tags : List String) : DeleteOutcome :=
  if tags = [] then .error .notDeleted else .ok tags

/-! ## Answers that do not depend on the calls before -/

/-- **The names with a positive answer** are those of which the system thinks well. -/
theorem answered_callEach {call : String → σ → σ × Timed α} {isPositive : Except String α → Bool}
    {accepts : String → Bool} (h : ∀ name s, isPositive (call name s).2.answer = accepts name)
    (names : List String) (s : σ) :
    answered isPositive (callEach call names s).2 = names.filter accepts := by
  induction names generalizing s with
  | nil => rfl
  | cons name names ih =>
    have hrest : answered isPositive (callEach call (name :: names) s).2 =
        if accepts name then name :: answered isPositive (callEach call names (call name s).1).2
        else answered isPositive (callEach call names (call name s).1).2 := by
      rw [callEach, answered, List.filter_cons, h name s]
      split <;> rfl
    rw [hrest, ih, List.filter_cons]

theorem firstDigest?_callEach {call : String → σ → σ × Timed (Option String)} {digest : String}
    (h : ∀ name s digest', (call name s).2.answer = .ok (some digest') → digest' = digest)
    {names : List String} {s : σ}
    (hne : answered (fun answer => (digest? answer).isSome) (callEach call names s).2 ≠ []) :
    firstDigest? (callEach call names s).2 = some digest := by
  induction names generalizing s with
  | nil => exact absurd rfl hne
  | cons name names ih =>
    have hfirst : firstDigest? (callEach call (name :: names) s).2 =
        (digest? (call name s).2.answer).or
          (firstDigest? (callEach call names (call name s).1).2) := by
      rw [callEach, firstDigest?, List.findSome?_cons]
      cases digest? (call name s).2.answer <;> rfl
    rcases ha : (call name s).2.answer with e | _ | digest'
    · rw [hfirst, ha]
      exact ih (by simpa [answered, callEach, ha, digest?] using hne)
    · rw [hfirst, ha]
      exact ih (by simpa [answered, callEach, ha, digest?] using hne)
    · rw [hfirst, ha, h name s digest' ha]
      rfl

/-! ## Either way -/

section

variable {r : Registry σ μ} {path : String} {answer : String → TagAnswer} {digest : String}

theorem fastOutcome_some (count : Nat) (tags : List String) :
    fastOutcome count (some tags) = reported tags := by
  cases tags <;> rfl

/-- **What a deletion by name reports.** -/
theorem outcome_fastDelete (h : r.TreatsAlike path answer digest) (tags : List String) (s : σ) :
    (fastDelete r none path tags s).outcome =
      reported (tags.filter fun tag => answer tag = .positive) := by
  have hdeleted : answered isDeleted (r.namesDeleted path tags s) =
      tags.filter fun tag => answer tag = .positive :=
    answered_callEach (fun tag s => by rw [TagAnswer.isDeleted_eq, h.byName]) tags s
  have hfast : (fastDelete r none path tags s).outcome =
      fastOutcome tags.length (deleteEach r path none tags s).outcome := rfl
  rw [hfast, outcome_deleteEach, hdeleted]
  exact fastOutcome_some _ _

/-- **What a deletion by digest reports.** -/
theorem outcome_slowDelete (h : r.TreatsAlike path answer digest) (tags : List String) (s : σ) :
    (slowDelete r path tags s).outcome =
      reported (tags.filter fun tag => answer tag = .positive) := by
  obtain ⟨manifest, hm⟩ := h.manifest s
  rw [outcome_slowDelete_of_manifest hm]
  generalize (r.generateEmptyManifest path s).1 = s'
  have hput : answered (fun answer => (digest? answer).isSome) (r.tagsPut path manifest tags s').2 =
      tags.filter fun tag => answer tag = .positive :=
    answered_callEach (fun tag s => by rw [TagAnswer.isSome_digest?_eq, h.put]) tags s'
  have htags := map_fst_outcome_putEach r path manifest tags s'
  have hdigest := head?_outcome_putEach r path manifest tags s'
  rw [hput] at htags
  by_cases hne : (tags.filter fun tag => answer tag = .positive) = []
  · rw [hne, List.map_eq_nil_iff] at htags
    rw [htags, hne]
    rfl
  · rw [Registry.tagsPut, firstDigest?_callEach (fun tag => h.digest_eq tag manifest)
      (hput.trans_ne hne)] at hdigest
    rw [reported, if_neg hne, ← htags]
    exact deleteDigest_eq_ok_iff.2 ⟨digest, hdigest, rfl, h.deletes _⟩

/-- **Both ways agree.** A registry that treats tags alike gives the same report for a deletion by
name without a limit and for one by digest, from whatever states they start: the tags that it
accepts, in order and as often as they were asked for, or that nothing could be deleted if there are
none. -/
theorem strategies_agree (h : r.TreatsAlike path answer digest) (tags : List String) (s s' : σ) :
    (fastDelete r none path tags s).outcome = (slowDelete r path tags s').outcome ∧
      (slowDelete r path tags s').outcome =
        reported (tags.filter fun tag => answer tag = .positive) :=
  ⟨(outcome_fastDelete h tags s).trans (outcome_slowDelete h tags s').symm,
    outcome_slowDelete h tags s'⟩

end

/-- A registry that counts its calls, accepts tags but `b` and `c`, and has no answer for `c`. -/
def countingRegistry : Registry Nat Unit where
  supportsTagDelete s := (s + 1, ⟨0, .ok true⟩)
  deleteTagByName _ tag s :=
    (s + 1, ⟨s, if tag = "c" then .error "gone" else .ok (tag ≠ "b")⟩)
  generateEmptyManifest _ s := (s + 1, ⟨0, .ok (some ())⟩)
  putTag _ tag _ s :=
    (s + 1, ⟨s, if tag = "c" then .error "timeout"
      else .ok (if tag = "b" then none else some "sha256:empty")⟩)
  deleteTagByDigest _ _ s := (s + 1, ⟨0, .ok true⟩)

/-- What it thinks of a tag. -/
def countingAnswer (tag : String) : TagAnswer :=
  if tag = "c" then .failed else if tag = "b" then .refused else .positive

/-- Both ways with a tag that is named twice, one that is refused and one without an answer. -/
theorem strategies_agree_counting :
    countingRegistry.TreatsAlike "group/project" countingAnswer "sha256:empty" ∧
      (fastDelete countingRegistry none "group/project" ["a", "b", "a", "c"] 0).outcome =
        (slowDelete countingRegistry "group/project" ["a", "b", "a", "c"] 7).outcome ∧
      (slowDelete countingRegistry "group/project" ["a", "b", "a", "c"] 7).outcome =
        .ok ["a", "a"] := by
  have h : countingRegistry.TreatsAlike "group/project" countingAnswer "sha256:empty" := by
    refine ⟨fun tag s => ?_, fun tag _ s => ?_, fun _ => ⟨(), rfl⟩, fun tag _ s digest' hd => ?_,
      fun _ => rfl⟩
    · by_cases hc : tag = "c"
      · simp [countingRegistry, countingAnswer, hc, TagAnswer.ofDelete]
      · by_cases hb : tag = "b" <;>
          simp [countingRegistry, countingAnswer, hb, hc, TagAnswer.ofDelete]
    · by_cases hc : tag = "c"
      · simp [countingRegistry, countingAnswer, hc, TagAnswer.ofPut]
      · by_cases hb : tag = "b" <;>
          simp [countingRegistry, countingAnswer, hb, hc, TagAnswer.ofPut]
    · by_cases hc : tag = "c"
      · simp [countingRegistry, hc] at hd
      · by_cases hb : tag = "b"
        · simp [countingRegistry, hb] at hd
        · simpa [countingRegistry, hb, hc] using hd.symm
  obtain ⟨hsame, hreport⟩ := strategies_agree h ["a", "b", "a", "c"] 0 7
  exact ⟨h, hsame, hreport.trans (by decide)⟩

end Replica
