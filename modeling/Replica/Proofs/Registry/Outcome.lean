import Mathlib.Data.List.Basic
import Replica.Proofs.Registry.Calls

/-!
# What a deletion answers

A deletion answers with the tags for which the registry was positive, or with an error.

* `fastOutcome_eq_ok_iff`, `deleteDigest_eq_ok_iff`: when each way to delete tags succeeds;
* **`success_byName_iff`**, **`success_byDigest_iff`**: when a deletion answers with tags, and with
  which;
* **`outcome_execute`**: the answer to every request.
-/

namespace Replica

variable {σ μ : Type}

theorem fastOutcome_eq_ok_iff {count : Nat} {answered? : Option (List String)}
    {deleted : List String} :
    fastOutcome count answered? = .ok deleted ↔ answered? = some deleted ∧ deleted ≠ [] := by
  rcases answered? with _ | _ | ⟨tag, tags⟩
  · simp [fastOutcome]
  · simp only [fastOutcome, reduceCtorEq, Option.some.injEq, false_iff, not_and, not_not]
    exact fun h => h.symm
  · simp only [fastOutcome, Except.ok.injEq, Option.some.injEq, iff_self_and]
    rintro rfl
    exact List.cons_ne_nil _ _

section

variable {r : Registry σ μ} {path : String} {deleted : List String}

/-- **The deletion of a digest succeeds** if there is one and the registry is positive. -/
theorem deleteDigest_eq_ok_iff {replaced : List (String × String)} {s : σ} :
    (deleteDigest r path replaced s).outcome = .ok deleted ↔
      ∃ digest, replaced.head?.map (·.2) = some digest ∧ deleted = replaced.map (·.1) ∧
        (r.deleteTagByDigest path digest s).2.answer = .ok true := by
  cases replaced with
  | nil => simp [deleteDigest]
  | cons first others =>
    simp only [deleteDigest, List.head?_cons, Option.map_some, Option.some.injEq,
      exists_eq_left']
    rcases (r.deleteTagByDigest path first.2 s).2.answer with e | _ | _
    · simp [digestOutcome]
    · simp [digestOutcome]
    · simp [digestOutcome, eq_comm]

theorem outcome_slowDelete_of_manifest {tags : List String} {s : σ} {manifest : μ}
    (h : (r.generateEmptyManifest path s).2.answer = .ok (some manifest)) :
    (slowDelete r path tags s).outcome =
      (deleteDigest r path (putEach r path manifest tags (r.generateEmptyManifest path s).1).outcome
        (putEach r path manifest tags (r.generateEmptyManifest path s).1).state).outcome := by
  simp only [slowDelete, makeManifest, h, Work.andThen]

theorem outcome_slowDelete_of_no_manifest {tags : List String} {s : σ}
    (h : ∀ manifest, (r.generateEmptyManifest path s).2.answer ≠ .ok (some manifest)) :
    (slowDelete r path tags s).outcome = .error .noManifest := by
  rcases ha : (r.generateEmptyManifest path s).2.answer with e | _ | manifest
  · simp [slowDelete, makeManifest, ha, Work.andThen]
  · simp [slowDelete, makeManifest, ha, Work.andThen]
  · exact absurd ha (h manifest)

end

namespace DeleteService

variable {service : DeleteService} {r : Registry σ μ} {path : String} {tags : List String} {s : σ}

/-- The state of the registry after the puts of a deletion by digest. -/
def afterPuts (service : DeleteService) (r : Registry σ μ) (path : String) (tags : List String)
    (s : σ) (manifest : μ) : σ :=
  (r.tagsPut path manifest tags (service.manifestMade r path s).1).1

theorem execute_nil (service : DeleteService) (r : Registry σ μ) (path : String) (s : σ) :
    (service.execute r path [] s).outcome = .ofOutcome (.error .noTags) := rfl

theorem ofOutcome_eq_success_iff {outcome : DeleteOutcome} {deleted : List String} :
    DeleteResponse.ofOutcome outcome = .success deleted ↔ outcome = .ok deleted := by
  cases outcome <;> simp [DeleteResponse.ofOutcome]

/-- **When a deletion by name succeeds.** -/
theorem success_byName_iff (h : service.DeletesByName r s) {deleted : List String} :
    (service.execute r path tags s).outcome = .success deleted ↔
      deleted = answered isDeleted (r.namesDeleted path tags (service.probed r s)) ∧
        deleted ≠ [] ∧ ¬service.RunsOut r path tags (service.probed r s) := by
  by_cases hn : tags = []
  · subst hn
    rw [execute_nil, ofOutcome_eq_success_iff]
    constructor
    · nofun
    · rintro ⟨rfl, hne, -⟩
      exact absurd rfl hne
  · rw [(execute_of_deletesByName h hn).2, ofOutcome_eq_success_iff, runsOut_iff]
    have hfast : (fastDelete r service.limit? path tags (service.probed r s)).outcome =
        fastOutcome tags.length (deleteEach r path (service.limit?.bind Duration.ticks?) tags
          (service.probed r s)).outcome := rfl
    rw [hfast, fastOutcome_eq_ok_iff, outcome_deleteEach]
    cases isLonger (totalDelay (r.namesDeleted path tags (service.probed r s)))
        (service.limit?.bind Duration.ticks?) with
    | true => simp
    | false => simp [eq_comm]

/-- **When a deletion by digest succeeds.** -/
theorem success_byDigest_iff (h : ¬service.DeletesByName r s) {deleted : List String} :
    (service.execute r path tags s).outcome = .success deleted ↔
      ∃ manifest digest, (service.manifestMade r path s).2.answer = .ok (some manifest) ∧
        deleted = answered (fun answer => (digest? answer).isSome)
          (service.answersToPuts r path tags s manifest) ∧
        firstDigest? (service.answersToPuts r path tags s manifest) = some digest ∧
        (r.deleteTagByDigest path digest (service.afterPuts r path tags s manifest)).2.answer =
          .ok true := by
  by_cases hn : tags = []
  · subst hn
    rw [execute_nil, ofOutcome_eq_success_iff]
    constructor
    · nofun
    · rintro ⟨_, _, -, -, hd, -⟩
      cases hd
  · rw [(execute_of_not_deletesByName h hn).2, ofOutcome_eq_success_iff]
    by_cases hm : ∃ manifest, (service.manifestMade r path s).2.answer = .ok (some manifest)
    · obtain ⟨manifest, hm⟩ := hm
      rw [outcome_slowDelete_of_manifest hm, deleteDigest_eq_ok_iff, head?_outcome_putEach,
        map_fst_outcome_putEach, (putEach_eq r path manifest tags _).1]
      constructor
      · rintro ⟨digest, hd, rfl, ha⟩
        exact ⟨manifest, digest, hm, rfl, hd, ha⟩
      · rintro ⟨manifest', digest, hm', hdeleted, hd, ha⟩
        obtain rfl : manifest = manifest' :=
          Option.some.inj (Except.ok.inj (hm.symm.trans hm'))
        exact ⟨digest, hd, hdeleted, ha⟩
    · have hm' := not_exists.1 hm
      rw [outcome_slowDelete_of_no_manifest hm']
      constructor
      · nofun
      · rintro ⟨manifest, _, hmade, -⟩
        exact absurd hmade (hm' manifest)

theorem answered_ne_nil {answers : List (String × Timed (Option String))} {digest : String}
    (h : firstDigest? answers = some digest) :
    answered (fun answer => (digest? answer).isSome) answers ≠ [] := by
  obtain ⟨tag, delay, hm⟩ := mem_of_firstDigest? h
  have hmem : tag ∈ answered (fun answer => (digest? answer).isSome) answers :=
    List.mem_map_of_mem (List.mem_filter.2 ⟨hm, rfl⟩)
  exact List.ne_nil_of_mem hmem

/-- **The report of a deletion** is exact. By name it has the tags of which the deletion was
answered positively, and there is one if and only if there are such tags and the time does not run
out. By digest it has the tags of which the put returned a digest, and there is one if and only if
there are such tags and the deletion of the first digest was answered positively. A report has some
tags, all of which were asked for, and where there is none the answer is an error. -/
theorem outcome_execute (service : DeleteService) (r : Registry σ μ) (path : String)
    (tags : List String) (s : σ) :
    (service.DeletesByName r s → ∀ deleted,
      (service.execute r path tags s).outcome = .success deleted ↔
        deleted = answered isDeleted (r.namesDeleted path tags (service.probed r s)) ∧
          deleted ≠ [] ∧ ¬service.RunsOut r path tags (service.probed r s)) ∧
    (¬service.DeletesByName r s → ∀ deleted,
      (service.execute r path tags s).outcome = .success deleted ↔
        ∃ manifest digest, (service.manifestMade r path s).2.answer = .ok (some manifest) ∧
          deleted = answered (fun answer => (digest? answer).isSome)
            (service.answersToPuts r path tags s manifest) ∧
          deleted ≠ [] ∧
          firstDigest? (service.answersToPuts r path tags s manifest) = some digest ∧
          (r.deleteTagByDigest path digest
            (service.afterPuts r path tags s manifest)).2.answer = .ok true) ∧
    (∀ deleted, (service.execute r path tags s).outcome = .success deleted →
      deleted ≠ [] ∧ deleted.Sublist tags) ∧
    ((∀ deleted, (service.execute r path tags s).outcome ≠ .success deleted) →
      (service.execute r path tags s).outcome.deleted = [] ∧
        ∃ message, (service.execute r path tags s).outcome = .error message) := by
  have hdigest : ¬service.DeletesByName r s → ∀ deleted,
      (service.execute r path tags s).outcome = .success deleted ↔
        ∃ manifest digest, (service.manifestMade r path s).2.answer = .ok (some manifest) ∧
          deleted = answered (fun answer => (digest? answer).isSome)
            (service.answersToPuts r path tags s manifest) ∧
          deleted ≠ [] ∧
          firstDigest? (service.answersToPuts r path tags s manifest) = some digest ∧
          (r.deleteTagByDigest path digest
            (service.afterPuts r path tags s manifest)).2.answer = .ok true := by
    intro h deleted
    rw [success_byDigest_iff h]
    constructor
    · rintro ⟨manifest, digest, hm, rfl, hd, ha⟩
      exact ⟨manifest, digest, hm, rfl, answered_ne_nil hd, hd, ha⟩
    · rintro ⟨manifest, digest, hm, rfl, -, hd, ha⟩
      exact ⟨manifest, digest, hm, rfl, hd, ha⟩
  refine ⟨fun h deleted => success_byName_iff h, hdigest, ?_, ?_⟩
  · intro deleted hs
    by_cases h : service.DeletesByName r s
    · obtain ⟨rfl, hne, -⟩ := (success_byName_iff h).1 hs
      exact ⟨hne, sublist_answered _ _ _ _⟩
    · obtain ⟨manifest, digest, -, rfl, hne, -⟩ := (hdigest h deleted).1 hs
      exact ⟨hne, sublist_answered _ _ _ _⟩
  · intro hnot
    cases ho : (service.execute r path tags s).outcome with
    | success deleted => exact absurd ho (hnot deleted)
    | error message => exact ⟨rfl, message, rfl⟩

end DeleteService

end Replica
