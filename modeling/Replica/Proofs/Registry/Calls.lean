import Mathlib.Data.List.Basic
import Replica.Proofs.Registry.Answers

/-!
# The calls to a registry

Which calls are made to a registry, and in which order, is settled by its answers.

* `Registry.recorded`: the same registry, which keeps a record of the calls made to it;
  **`execute_recorded`**: this is what is given as the calls of a deletion;
* `DeleteService.DeletesByName`, `DeleteService.probe`: what settles the way to delete tags;
* `DeleteService.RunsOut`: the limit passes before some tags are deleted;
* `DeleteService.Trace`: the calls of a deletion, by what settles them;
* **`calls_execute`**: the calls of every deletion.
-/

namespace Replica

variable {σ μ α β : Type}

/-! ## A record of the calls -/

namespace Registry

/-- **The registry with a record** of the calls made to it, kept beside its state. -/
def recorded (r : Registry σ μ) : Registry (σ × List (RegistryCall μ)) μ where
  supportsTagDelete s :=
    (((r.supportsTagDelete s.1).1, s.2 ++ [.supportsTagDelete]), (r.supportsTagDelete s.1).2)
  deleteTagByName path tag s :=
    (((r.deleteTagByName path tag s.1).1, s.2 ++ [.deleteTagByName path tag]),
      (r.deleteTagByName path tag s.1).2)
  generateEmptyManifest path s :=
    (((r.generateEmptyManifest path s.1).1, s.2 ++ [.generateEmptyManifest path]),
      (r.generateEmptyManifest path s.1).2)
  putTag path tag manifest s :=
    (((r.putTag path tag manifest s.1).1, s.2 ++ [.putTag path tag manifest]),
      (r.putTag path tag manifest s.1).2)
  deleteTagByDigest path digest s :=
    (((r.deleteTagByDigest path digest s.1).1, s.2 ++ [.deleteTagByDigest path digest]),
      (r.deleteTagByDigest path digest s.1).2)

variable (r : Registry σ μ) (path : String) (s : σ) (log : List (RegistryCall μ))

@[simp] theorem recorded_supportsTagDelete :
    r.recorded.supportsTagDelete (s, log) =
      (((r.supportsTagDelete s).1, log ++ [.supportsTagDelete]), (r.supportsTagDelete s).2) := rfl

@[simp] theorem recorded_deleteTagByName (tag : String) :
    r.recorded.deleteTagByName path tag (s, log) =
      (((r.deleteTagByName path tag s).1, log ++ [.deleteTagByName path tag]),
        (r.deleteTagByName path tag s).2) := rfl

@[simp] theorem recorded_generateEmptyManifest :
    r.recorded.generateEmptyManifest path (s, log) =
      (((r.generateEmptyManifest path s).1, log ++ [.generateEmptyManifest path]),
        (r.generateEmptyManifest path s).2) := rfl

@[simp] theorem recorded_putTag (tag : String) (manifest : μ) :
    r.recorded.putTag path tag manifest (s, log) =
      (((r.putTag path tag manifest s).1, log ++ [.putTag path tag manifest]),
        (r.putTag path tag manifest s).2) := rfl

@[simp] theorem recorded_deleteTagByDigest (digest : String) :
    r.recorded.deleteTagByDigest path digest (s, log) =
      (((r.deleteTagByDigest path digest s).1, log ++ [.deleteTagByDigest path digest]),
        (r.deleteTagByDigest path digest s).2) := rfl

end Registry

/-- The same work, with its calls behind those recorded before. -/
def Work.recorded (w : Work σ μ α) (log : List (RegistryCall μ)) :
    Work (σ × List (RegistryCall μ)) μ α :=
  ⟨(w.state, log ++ w.calls), w.calls, w.events, w.outcome⟩

theorem Work.recorded_andThen (w : Work σ μ α) (log : List (RegistryCall μ))
    {next : α → σ → Work σ μ β}
    {next' : α → σ × List (RegistryCall μ) → Work (σ × List (RegistryCall μ)) μ β}
    (h : ∀ a s log, next' a (s, log) = (next a s).recorded log) :
    (w.recorded log).andThen next' = (w.andThen next).recorded log := by
  simp only [Work.andThen, Work.recorded, h, List.append_assoc]

section

variable (r : Registry σ μ) (path : String)

theorem deleteEach_recorded (left? : Option Nat) (tags : List String) (s : σ)
    (log : List (RegistryCall μ)) :
    deleteEach r.recorded path left? tags (s, log) =
      (deleteEach r path left? tags s).recorded log := by
  induction tags generalizing left? s log with
  | nil => simp [deleteEach, Work.recorded]
  | cons tag tags ih =>
    rw [deleteEach, deleteEach, Registry.recorded_deleteTagByName]
    cases isLonger (r.deleteTagByName path tag s).2.delay left? with
    | true => rfl
    | false => simp [ih, Work.recorded]

theorem putEach_recorded (manifest : μ) (tags : List String) (s : σ)
    (log : List (RegistryCall μ)) :
    putEach r.recorded path manifest tags (s, log) =
      (putEach r path manifest tags s).recorded log := by
  induction tags generalizing s log with
  | nil => simp [putEach, Work.recorded]
  | cons tag tags ih =>
    rw [putEach, putEach, Registry.recorded_putTag]
    simp [ih, Work.recorded]

theorem makeManifest_recorded (s : σ) (log : List (RegistryCall μ)) :
    makeManifest r.recorded path (s, log) = (makeManifest r path s).recorded log := by
  rw [makeManifest, makeManifest, Registry.recorded_generateEmptyManifest]
  cases (r.generateEmptyManifest path s).2.answer <;> rfl

theorem deleteDigest_recorded (replaced : List (String × String)) (s : σ)
    (log : List (RegistryCall μ)) :
    deleteDigest r.recorded path replaced (s, log) =
      (deleteDigest r path replaced s).recorded log := by
  cases replaced with
  | nil => simp [deleteDigest, Work.recorded]
  | cons first others => rfl

theorem slowDelete_recorded (tags : List String) (s : σ) (log : List (RegistryCall μ)) :
    slowDelete r.recorded path tags (s, log) = (slowDelete r path tags s).recorded log := by
  rw [slowDelete, makeManifest_recorded]
  refine Work.recorded_andThen _ log fun manifest? s log => ?_
  cases manifest? with
  | none => simp [Work.recorded]
  | some manifest =>
    simp only [putEach_recorded]
    exact Work.recorded_andThen _ log fun replaced s log =>
      deleteDigest_recorded r path replaced s log

theorem delete_recorded (strategy : Strategy) (tags : List String) (s : σ)
    (log : List (RegistryCall μ)) :
    strategy.delete r.recorded path tags (s, log) =
      (strategy.delete r path tags s).recorded log := by
  cases strategy with
  | fast limit? =>
    simp only [Strategy.delete, fastDelete, deleteEach_recorded]
    rfl
  | slow => exact slowDelete_recorded r path tags s log

theorem selectStrategy_recorded (service : DeleteService) (s : σ) (log : List (RegistryCall μ)) :
    service.selectStrategy r.recorded (s, log) = (service.selectStrategy r s).recorded log := by
  rw [DeleteService.selectStrategy, DeleteService.selectStrategy]
  split
  · rw [Registry.recorded_supportsTagDelete]
    rcases ha : (r.supportsTagDelete s).2.answer with e | _ | _ <;> simp [ha, Work.recorded]
  · simp [Work.recorded]

/-- **The calls of a deletion are those that the registry gets.** -/
theorem execute_recorded (service : DeleteService) (tags : List String) (s : σ)
    (log : List (RegistryCall μ)) :
    service.execute r.recorded path tags (s, log) =
      (service.execute r path tags s).recorded log := by
  rw [DeleteService.execute, DeleteService.execute]
  split
  · simp [Work.recorded]
  · have h := Work.recorded_andThen (service.selectStrategy r s) log fun strategy s log =>
      delete_recorded r path strategy tags s log
    rw [selectStrategy_recorded, h]
    rfl

end

/-! ## The way to delete tags -/

namespace DeleteService

/-- **Tags are deleted by name**: this is enabled, and the registry has answered that it can. -/
structure DeletesByName (service : DeleteService) (r : Registry σ μ) (s : σ) : Prop where
  enabled : service.flags.enabled Flags.fastTagDelete true = true
  supported : (r.supportsTagDelete s).2.answer = .ok true

/-- The calls that are made to choose a way. -/
def probe (service : DeleteService) : List (RegistryCall μ) :=
  if service.flags.enabled Flags.fastTagDelete true then [.supportsTagDelete] else []

/-- The state of the registry after that. -/
def probed (service : DeleteService) (r : Registry σ μ) (s : σ) : σ :=
  if service.flags.enabled Flags.fastTagDelete true then (r.supportsTagDelete s).1 else s

/-- **The time runs out** before some tags are deleted by name: there is a limit, and the answers
take longer. -/
def RunsOut (service : DeleteService) (r : Registry σ μ) (path : String) (tags : List String)
    (s : σ) : Prop :=
  service.flags.enabled Flags.throttledTagDelete false = true ∧
    ∃ ticks, service.limit.ticks? = some ticks ∧ ticks < totalDelay (r.namesDeleted path tags s)

variable {service : DeleteService} {r : Registry σ μ} {path : String} {tags : List String} {s : σ}

theorem runsOut_iff :
    service.RunsOut r path tags s ↔
      isLonger (totalDelay (r.namesDeleted path tags s))
        (service.limit?.bind Duration.ticks?) = true := by
  rw [RunsOut, limit?]
  cases service.flags.enabled Flags.throttledTagDelete false with
  | false => simp [isLonger]
  | true =>
    rw [if_pos rfl, Option.bind_some]
    generalize service.limit.ticks? = ticks?
    cases ticks? <;> simp [isLonger]

theorem state_selectStrategy (service : DeleteService) (r : Registry σ μ) (s : σ) :
    (service.selectStrategy r s).state = service.probed r s := by
  rw [selectStrategy, probed]
  split
  · rcases ha : (r.supportsTagDelete s).2.answer with e | _ | _ <;> simp [ha]
  · rfl

theorem calls_selectStrategy (service : DeleteService) (r : Registry σ μ) (s : σ) :
    (service.selectStrategy r s).calls = service.probe := by
  rw [selectStrategy, probe]
  split
  · rcases ha : (r.supportsTagDelete s).2.answer with e | _ | _ <;> simp [ha]
  · rfl

theorem outcome_selectStrategy_of_deletesByName (h : service.DeletesByName r s) :
    (service.selectStrategy r s).outcome = .fast service.limit? := by
  simp [selectStrategy, h.enabled, h.supported]

theorem outcome_selectStrategy_of_not_deletesByName (h : ¬service.DeletesByName r s) :
    (service.selectStrategy r s).outcome = .slow := by
  rw [selectStrategy]
  split
  · rename_i he
    rcases ha : (r.supportsTagDelete s).2.answer with e | _ | _
    · simp [ha]
    · simp [ha]
    · exact absurd ⟨he, ha⟩ h
  · rfl

theorem execute_of_deletesByName (h : service.DeletesByName r s) (hne : tags ≠ []) :
    (service.execute r path tags s).calls =
        service.probe ++ (fastDelete r service.limit? path tags (service.probed r s)).calls ∧
      (service.execute r path tags s).outcome =
        .ofOutcome (fastDelete r service.limit? path tags (service.probed r s)).outcome := by
  rw [execute, if_neg (by simpa using hne)]
  simp only [Work.andThen, Work.tell, Work.map, outcome_selectStrategy_of_deletesByName h,
    state_selectStrategy, calls_selectStrategy, Strategy.delete, and_self]

theorem execute_of_not_deletesByName (h : ¬service.DeletesByName r s) (hne : tags ≠ []) :
    (service.execute r path tags s).calls =
        service.probe ++ (slowDelete r path tags (service.probed r s)).calls ∧
      (service.execute r path tags s).outcome =
        .ofOutcome (slowDelete r path tags (service.probed r s)).outcome := by
  rw [execute, if_neg (by simpa using hne)]
  simp only [Work.andThen, Work.tell, Work.map, outcome_selectStrategy_of_not_deletesByName h,
    state_selectStrategy, calls_selectStrategy, Strategy.delete, and_self]

end DeleteService

/-! ## The calls of a deletion by digest -/

section

variable {r : Registry σ μ} {path : String}

theorem calls_deleteDigest (replaced : List (String × String)) (s : σ) :
    (deleteDigest r path replaced s).calls =
      ((replaced.head?.map (·.2)).map (.deleteTagByDigest path)).toList := by
  cases replaced <;> rfl

/-- **The calls of a deletion by digest**: with a manifest, all puts, and then the deletion of the
first digest that one of them returned. -/
theorem calls_slowDelete_of_manifest {tags : List String} {s : σ} {manifest : μ}
    (h : (r.generateEmptyManifest path s).2.answer = .ok (some manifest)) :
    (slowDelete r path tags s).calls =
      .generateEmptyManifest path :: tags.map (.putTag path · manifest) ++
        ((firstDigest? (r.tagsPut path manifest tags (r.generateEmptyManifest path s).1).2).map
          (.deleteTagByDigest path)).toList := by
  obtain ⟨-, hcalls, -⟩ := putEach_eq r path manifest tags
    (r.generateEmptyManifest path s).1
  simp only [slowDelete, makeManifest, h, Work.andThen, calls_deleteDigest, hcalls,
    head?_outcome_putEach, List.cons_append, List.nil_append]

theorem calls_slowDelete_of_no_manifest {tags : List String} {s : σ}
    (h : ∀ manifest, (r.generateEmptyManifest path s).2.answer ≠ .ok (some manifest)) :
    (slowDelete r path tags s).calls = [.generateEmptyManifest path] := by
  rcases ha : (r.generateEmptyManifest path s).2.answer with e | _ | manifest
  · simp [slowDelete, makeManifest, ha, Work.andThen]
  · simp [slowDelete, makeManifest, ha, Work.andThen]
  · exact absurd ha (h manifest)

end

/-! ## All calls -/

/-- The repository that a call is about. -/
def RegistryCall.path? : RegistryCall μ → Option String
  | supportsTagDelete => none
  | deleteTagByName path _ | generateEmptyManifest path | putTag path _ _
  | deleteTagByDigest path _ => some path

namespace DeleteService

variable (service : DeleteService) (r : Registry σ μ) (path : String) (tags : List String) (s : σ)

/-- The manifest for a deletion by digest, as the registry answers. -/
def manifestMade : σ × Timed (Option μ) := r.generateEmptyManifest path (service.probed r s)

/-- The answers to the puts of a deletion by digest. -/
def answersToPuts (manifest : μ) : List (String × Timed (Option String)) :=
  (r.tagsPut path manifest tags (service.manifestMade r path s).1).2

/-- **The calls of a deletion**, by what settles them. -/
inductive Trace : List (RegistryCall μ) → Prop where
  /-- Without tags there are none. -/
  | empty (h : tags = []) : Trace []
  /-- By name: one call a tag, in order, whatever the answers are, up to the one during which the
  time runs out. -/
  | byName {made : List String} (hn : tags ≠ []) (h : service.DeletesByName r s)
      (hp : made <+: tags) (hb : ¬service.RunsOut r path made.dropLast (service.probed r s))
      (he : made = tags ∨ service.RunsOut r path made (service.probed r s)) :
      Trace (service.probe ++ made.map (.deleteTagByName path))
  /-- By digest, and the registry makes no manifest. -/
  | withoutManifest (hn : tags ≠ []) (h : ¬service.DeletesByName r s)
      (hm : ∀ manifest, (service.manifestMade r path s).2.answer ≠ .ok (some manifest)) :
      Trace (service.probe ++ [.generateEmptyManifest path])
  /-- By digest: one put a tag, in order, all of one manifest, and then the deletion of the first
  digest that a put returned, if one did. -/
  | byDigest {manifest : μ} (hn : tags ≠ []) (h : ¬service.DeletesByName r s)
      (hm : (service.manifestMade r path s).2.answer = .ok (some manifest)) :
      Trace (service.probe ++ .generateEmptyManifest path :: tags.map (.putTag path · manifest) ++
        ((firstDigest? (service.answersToPuts r path tags s manifest)).map
          (.deleteTagByDigest path)).toList)

/-- **Every deletion takes one of the traces.** -/
theorem trace_execute : service.Trace r path tags s (service.execute r path tags s).calls := by
  by_cases hn : tags = []
  · subst hn
    exact .empty rfl
  · by_cases h : service.DeletesByName r s
    · rw [(execute_of_deletesByName h hn).1]
      obtain ⟨made, hp, hcalls, hb, he⟩ := calls_deleteEach r path
        (service.limit?.bind Duration.ticks?) tags (service.probed r s)
      have hfast : (fastDelete r service.limit? path tags (service.probed r s)).calls =
          made.map (.deleteTagByName path) := hcalls
      rw [hfast]
      refine .byName hn h hp ?_ (he.imp_right runsOut_iff.2)
      rw [runsOut_iff, hb]
      nofun
    · rw [(execute_of_not_deletesByName h hn).1]
      by_cases hm : ∃ manifest, (service.manifestMade r path s).2.answer = .ok (some manifest)
      · obtain ⟨manifest, hm⟩ := hm
        rw [calls_slowDelete_of_manifest hm, ← List.append_assoc]
        exact .byDigest hn h hm
      · have hm' := not_exists.1 hm
        rw [calls_slowDelete_of_no_manifest hm']
        exact .withoutManifest hn h hm'

namespace Trace

variable {service r path tags s} {calls : List (RegistryCall μ)}

theorem mem_probe {call : RegistryCall μ} (h : call ∈ service.probe) :
    call = .supportsTagDelete := by
  rw [probe] at h
  split at h
  · exact List.mem_singleton.1 h
  · cases h

/-- **Which calls there are.** -/
theorem mem_cases (h : service.Trace r path tags s calls) {call : RegistryCall μ}
    (hc : call ∈ calls) :
    call = .supportsTagDelete ∨
      (service.DeletesByName r s ∧ ∃ tag ∈ tags, call = .deleteTagByName path tag) ∨
      ¬service.DeletesByName r s ∧ (call = .generateEmptyManifest path ∨
        ∃ manifest, (service.manifestMade r path s).2.answer = .ok (some manifest) ∧
          ((∃ tag ∈ tags, call = .putTag path tag manifest) ∨
            ∃ digest, firstDigest? (service.answersToPuts r path tags s manifest) = some digest ∧
              call = .deleteTagByDigest path digest)) := by
  cases h with
  | empty => cases hc
  | byName hn h hp =>
    rcases List.mem_append.1 hc with hc | hc
    · exact .inl (mem_probe hc)
    · obtain ⟨tag, ht, rfl⟩ := List.mem_map.1 hc
      exact .inr (.inl ⟨h, tag, hp.subset ht, rfl⟩)
  | withoutManifest hn h hm =>
    rcases List.mem_append.1 hc with hc | hc
    · exact .inl (mem_probe hc)
    · exact .inr (.inr ⟨h, .inl (List.mem_singleton.1 hc)⟩)
  | byDigest hn h hm =>
    rcases List.mem_append.1 hc with hc | hc
    · rcases List.mem_append.1 hc with hc | hc
      · exact .inl (mem_probe hc)
      · rcases List.mem_cons.1 hc with hc | hc
        · exact .inr (.inr ⟨h, .inl hc⟩)
        · obtain ⟨tag, ht, rfl⟩ := List.mem_map.1 hc
          exact .inr (.inr ⟨h, .inr ⟨_, hm, .inl ⟨tag, ht, rfl⟩⟩⟩)
    · obtain ⟨digest, hd, rfl⟩ := Option.map_eq_some_iff.1 (Option.mem_toList.1 hc)
      exact .inr (.inr ⟨h, .inr ⟨_, hm, .inr ⟨digest, hd, rfl⟩⟩⟩)

end Trace

theorem mem_of_firstDigest? {answers : List (String × Timed (Option String))} {digest : String}
    (h : firstDigest? answers = some digest) :
    ∃ tag delay, (tag, ⟨delay, .ok (some digest)⟩) ∈ answers := by
  obtain ⟨⟨tag, delay, answer⟩, hm, ha⟩ := List.exists_of_findSome?_eq_some h
  rcases answer with e | digest?
  · cases ha
  · obtain rfl : digest? = some digest := ha
    exact ⟨tag, delay, hm⟩

/-- **The calls of a deletion.** They are those that the registry gets, and they follow one of the
traces. No deletion both deletes by name and puts, every call but the first question is about the
given repository, and a digest is deleted only if a put of this deletion returned it. -/
theorem calls_execute :
    (service.execute r.recorded path tags (s, [])).state.2 =
        (service.execute r path tags s).calls ∧
      service.Trace r path tags s (service.execute r path tags s).calls ∧
      (∀ path₁ path₂ tag₁ tag₂ manifest,
        .deleteTagByName path₁ tag₁ ∈ (service.execute r path tags s).calls →
          .putTag path₂ tag₂ manifest ∉ (service.execute r path tags s).calls) ∧
      (∀ call ∈ (service.execute r path tags s).calls,
        call = .supportsTagDelete ∨ call.path? = some path) ∧
      (∀ path' digest, .deleteTagByDigest path' digest ∈ (service.execute r path tags s).calls →
        ∃ manifest tag delay, (service.manifestMade r path s).2.answer = .ok (some manifest) ∧
          (tag, ⟨delay, .ok (some digest)⟩) ∈ service.answersToPuts r path tags s manifest) := by
  have htrace := service.trace_execute r path tags s
  refine ⟨by rw [execute_recorded]; rfl, htrace, ?_, ?_, ?_⟩
  · intro path₁ path₂ tag₁ tag₂ manifest hdelete hput
    have hby : service.DeletesByName r s := by
      rcases htrace.mem_cases hdelete with h | ⟨h, -⟩ | ⟨-, h | ⟨_, -, ⟨_, -, h⟩ | ⟨_, -, h⟩⟩⟩
      · cases h
      · exact h
      · cases h
      · cases h
      · cases h
    have hnot : ¬service.DeletesByName r s := by
      rcases htrace.mem_cases hput with h | ⟨-, _, -, h⟩ | ⟨h, -⟩
      · cases h
      · cases h
      · exact h
    exact hnot hby
  · intro call hc
    rcases htrace.mem_cases hc with h | ⟨-, _, -, rfl⟩ |
      ⟨-, rfl | ⟨_, -, ⟨_, -, rfl⟩ | ⟨_, -, rfl⟩⟩⟩
    · exact .inl h
    all_goals exact .inr rfl
  · intro path' digest hc
    rcases htrace.mem_cases hc with h | ⟨-, _, -, h⟩ |
      ⟨-, h | ⟨manifest, hm, ⟨_, -, h⟩ | ⟨_, hd, h⟩⟩⟩
    · cases h
    · cases h
    · cases h
    · cases h
    · cases h
      obtain ⟨tag, delay, ha⟩ := mem_of_firstDigest? hd
      exact ⟨manifest, tag, delay, hm, ha⟩

end DeleteService

end Replica
