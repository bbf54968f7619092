import Mathlib.Data.List.Basic
import Replica.Proofs.Registry.Outcome

/-!
# Throttled deletions

A deletion by name may have a limit for the time of its calls. If they all end in time, the limit
cannot be seen. If they do not, nothing is reported, and the calls until then are those that are
made without a limit. No other delay counts.

* `Registry.delayed`: the same answers after other delays;
* `deleteEach_eq_of_within`, `prefix_events_deleteEach`: a limit that suffices, and any limit;
* **`DeleteService.execute_delayed`**: the delays that a deletion can depend on;
* **`DeleteService.execute_eq_unthrottled`**, **`DeleteService.times_out_iff`**: the deletions that
  a limit does not change, and those that it ends;
* **`DeleteService.throttling_all_or_nothing`**.
-/

namespace Replica

variable {σ μ α β : Type}

/-! ## Delays -/

/-- **The registry with other delays**: its answers are the same. -/
def Registry.delayed (r : Registry σ μ) (delay : RegistryCall μ → σ → Nat) : Registry σ μ where
  supportsTagDelete s :=
    ((r.supportsTagDelete s).1, ⟨delay .supportsTagDelete s, (r.supportsTagDelete s).2.answer⟩)
  deleteTagByName path tag s :=
    ((r.deleteTagByName path tag s).1,
      ⟨delay (.deleteTagByName path tag) s, (r.deleteTagByName path tag s).2.answer⟩)
  generateEmptyManifest path s :=
    ((r.generateEmptyManifest path s).1,
      ⟨delay (.generateEmptyManifest path) s, (r.generateEmptyManifest path s).2.answer⟩)
  putTag path tag manifest s :=
    ((r.putTag path tag manifest s).1,
      ⟨delay (.putTag path tag manifest) s, (r.putTag path tag manifest s).2.answer⟩)
  deleteTagByDigest path digest s :=
    ((r.deleteTagByDigest path digest s).1,
      ⟨delay (.deleteTagByDigest path digest) s, (r.deleteTagByDigest path digest s).2.answer⟩)

theorem Registry.delayed_deleteTagByName (r : Registry σ μ) (delay : RegistryCall μ → σ → Nat)
    (path tag : String) (s : σ) :
    (r.delayed delay).deleteTagByName path tag s =
      ((r.deleteTagByName path tag s).1,
        ⟨delay (.deleteTagByName path tag) s, (r.deleteTagByName path tag s).2.answer⟩) := rfl

theorem Work.andThen_congr {w : Work σ μ α} {next next' : α → σ → Work σ μ β}
    (h : next w.outcome w.state = next' w.outcome w.state) : w.andThen next = w.andThen next' := by
  rw [Work.andThen, Work.andThen, h]

section

variable {r : Registry σ μ} {path : String} {delay : RegistryCall μ → σ → Nat}

theorem deleteEach_delayed {left? : Option Nat}
    (h : left? ≠ none → ∀ tag s,
      delay (.deleteTagByName path tag) s = (r.deleteTagByName path tag s).2.delay)
    (tags : List String) (s : σ) :
    deleteEach (r.delayed delay) path left? tags s = deleteEach r path left? tags s := by
  -- on the tags: what is left of a limit is one again, and no limit is none for the others
  induction tags generalizing left? s with
  | nil => rfl
  | cons tag tags ih =>
    cases left? with
    | none =>
      simp only [deleteEach, Registry.delayed_deleteTagByName, isLonger, Option.map_none, ih h]
      rfl
    | some left =>
      have hdelay := h (Option.some_ne_none left)
      simp only [deleteEach, Registry.delayed_deleteTagByName, hdelay, Option.map_some,
        ih fun _ => hdelay]

theorem putEach_delayed (manifest : μ) (tags : List String) (s : σ) :
    putEach (r.delayed delay) path manifest tags s = putEach r path manifest tags s := by
  induction tags generalizing s with
  | nil => rfl
  | cons tag tags ih =>
    rw [putEach, putEach, ih]
    rfl

theorem slowDelete_delayed (tags : List String) (s : σ) :
    slowDelete (r.delayed delay) path tags s = slowDelete r path tags s := by
  have hmake : makeManifest (r.delayed delay) path s = makeManifest r path s := rfl
  have hdelete : ∀ replaced s,
      deleteDigest (r.delayed delay) path replaced s = deleteDigest r path replaced s := by
    intro replaced s
    cases replaced <;> rfl
  rw [slowDelete, slowDelete, hmake]
  simp only [putEach_delayed, hdelete]

/-! ## Limits -/

/-- **A limit that suffices** changes nothing. -/
theorem deleteEach_eq_of_within {left? : Option Nat} {tags : List String} {s : σ}
    (h : isLonger (totalDelay (r.namesDeleted path tags s)) left? = false) :
    deleteEach r path left? tags s = deleteEach r path none tags s := by
  induction tags generalizing left? s with
  | nil => rfl
  | cons tag tags ih =>
    have hfirst : isLonger (r.deleteTagByName path tag s).2.delay left? = false := by
      rw [Bool.eq_false_iff]
      intro hlong
      rw [Bool.eq_false_iff] at h
      exact h (isLonger_add _ hlong)
    have hrest : isLonger (totalDelay (r.namesDeleted path tags (r.deleteTagByName path tag s).1))
        (left?.map (· - (r.deleteTagByName path tag s).2.delay)) = false :=
      (isLonger_map_sub _ hfirst).trans h
    rw [deleteEach, deleteEach, ih hrest, hfirst]
    rfl

/-- **What is told until a limit ends** is told without it, too. -/
theorem prefix_events_deleteEach (left? : Option Nat) (tags : List String) (s : σ) :
    (deleteEach r path left? tags s).events <+: (deleteEach r path none tags s).events := by
  induction tags generalizing left? s with
  | nil => exact List.prefix_rfl
  | cons tag tags ih =>
    rw [deleteEach, deleteEach]
    cases isLonger (r.deleteTagByName path tag s).2.delay left? with
    | true => exact List.nil_prefix
    | false => exact (List.prefix_append_right_inj _).2 (ih _ _)

theorem calls_deleteEach_none (tags : List String) (s : σ) :
    (deleteEach r path none tags s).calls = tags.map (.deleteTagByName path) := by
  obtain ⟨made, -, hcalls, -, rfl | hlong⟩ := calls_deleteEach r path none tags s
  · exact hcalls
  · cases hlong

theorem slowDelete_ne_timeout (tags : List String) (s : σ) (count : Nat) :
    (slowDelete r path tags s).outcome ≠ .error (.timeout count) := by
  have hdelete : ∀ replaced s,
      (deleteDigest r path replaced s).outcome ≠ .error (.timeout count) := by
    intro replaced s
    cases replaced with
    | nil => simp [deleteDigest]
    | cons first others =>
      rw [deleteDigest]
      rcases (r.deleteTagByDigest path first.2 s).2.answer with e | _ | _
      · simp [digestOutcome]
      · simp [digestOutcome]
      · simp [digestOutcome]
  by_cases hm : ∃ manifest, (r.generateEmptyManifest path s).2.answer = .ok (some manifest)
  · obtain ⟨manifest, hm⟩ := hm
    rw [outcome_slowDelete_of_manifest hm]
    exact hdelete _ _
  · rw [outcome_slowDelete_of_no_manifest (not_exists.1 hm)]
    simp

end

theorem Duration.ticks?_of_millis {limit : Duration} {ms : Nat}
    (h : limit.toNanos = ms * 1000000) :
    limit.ticks? = if ms < lastTick then some ms else none := by
  have hceil : (limit.toNanos + 999999) / 1000000 = ms := by omega
  rw [Duration.ticks?, hceil]

theorem DeleteResponse.ofOutcome_eq_timeout_iff {outcome : DeleteOutcome} :
    ofOutcome outcome = .error "Timeout while deleting tags" ↔
      ∃ count, outcome = .error (.timeout count) := by
  cases outcome with
  | error e => cases e <;> simp [ofOutcome, DeleteError.message]
  | ok deleted => simp [ofOutcome]

namespace DeleteService

variable {service : DeleteService} {r : Registry σ μ} {path : String} {tags : List String} {s : σ}

/-- **The service without a limit.** -/
def unthrottled (service : DeleteService) : DeleteService :=
  { service with flags := service.flags.set Flags.throttledTagDelete false }

theorem enabled_unthrottled :
    service.unthrottled.flags.enabled Flags.fastTagDelete true =
      service.flags.enabled Flags.fastTagDelete true := by
  rw [unthrottled, Flags.enabled_set, if_neg (by decide)]

theorem probed_unthrottled : service.unthrottled.probed r s = service.probed r s := by
  rw [probed, probed, enabled_unthrottled]

theorem limit?_unthrottled : service.unthrottled.limit? = none := by
  rw [limit?, unthrottled, Flags.enabled_set, if_pos rfl, if_neg (by decide)]

theorem deletesByName_unthrottled :
    service.unthrottled.DeletesByName r s ↔ service.DeletesByName r s := by
  constructor
  · rintro ⟨he, hs⟩
    exact ⟨enabled_unthrottled ▸ he, hs⟩
  · rintro ⟨he, hs⟩
    exact ⟨enabled_unthrottled.trans he, hs⟩

theorem runsOut_iff_of_millis {ms : Nat} (h : service.limit.toNanos = ms * 1000000) :
    service.RunsOut r path tags s ↔
      service.flags.enabled Flags.throttledTagDelete false = true ∧ ms < lastTick ∧
        ms < totalDelay (r.namesDeleted path tags s) := by
  rw [RunsOut, Duration.ticks?_of_millis h]
  split <;> simp [*]

theorem RunsOut.ne_nil (h : service.RunsOut r path tags s) : tags ≠ [] := by
  rintro rfl
  obtain ⟨-, ticks, -, hlong⟩ := h
  exact Nat.not_lt_zero ticks hlong

/-! ## The ways to delete tags -/

/-- A deletion as a whole, by its work in a way to delete tags that was chosen without a word. -/
def report (service : DeleteService) (w : Work σ μ DeleteOutcome) : Work σ μ DeleteResponse :=
  ⟨w.state, service.probe ++ w.calls, w.events ++ [outcomeEvent w.outcome], .ofOutcome w.outcome⟩

theorem report_unthrottled (w : Work σ μ DeleteOutcome) :
    service.unthrottled.report w = service.report w := by
  rw [report, report, probe, probe, enabled_unthrottled]

theorem execute_eq_report (h : service.DeletesByName r s) (hne : tags ≠ []) :
    service.execute r path tags s =
      service.report (fastDelete r service.limit? path tags (service.probed r s)) := by
  have hselect : service.selectStrategy r s =
      ⟨service.probed r s, service.probe, [], .fast service.limit?⟩ := by
    simp only [selectStrategy, probed, probe, h.enabled, h.supported, if_true]
  rw [execute, if_neg (by simpa using hne), hselect]
  rfl

theorem execute_unthrottled_eq_report (h : service.DeletesByName r s) (hne : tags ≠ []) :
    service.unthrottled.execute r path tags s =
      service.report (fastDelete r none path tags (service.probed r s)) := by
  rw [execute_eq_report (deletesByName_unthrottled.2 h) hne, report_unthrottled,
    limit?_unthrottled, probed_unthrottled]

theorem execute_delayed {delay : RegistryCall μ → σ → Nat}
    (h : service.DeletesByName r s →
      service.flags.enabled Flags.throttledTagDelete false = true → ∀ tag s,
        delay (.deleteTagByName path tag) s = (r.deleteTagByName path tag s).2.delay) :
    service.execute (r.delayed delay) path tags s = service.execute r path tags s := by
  have hselect : service.selectStrategy (r.delayed delay) s = service.selectStrategy r s := rfl
  have hway : ((service.selectStrategy r s).andThen fun strategy s =>
      strategy.delete (r.delayed delay) path tags s) =
      (service.selectStrategy r s).andThen fun strategy s => strategy.delete r path tags s := by
    apply Work.andThen_congr
    by_cases hby : service.DeletesByName r s
    · have hlimit : service.limit?.bind Duration.ticks? ≠ none → ∀ tag s,
          delay (.deleteTagByName path tag) s = (r.deleteTagByName path tag s).2.delay := by
        intro hne
        apply h hby
        by_contra hoff
        rw [limit?, if_neg hoff] at hne
        exact hne rfl
      rw [outcome_selectStrategy_of_deletesByName hby, Strategy.delete, Strategy.delete, fastDelete,
        fastDelete, deleteEach_delayed hlimit]
    · rw [outcome_selectStrategy_of_not_deletesByName hby]
      exact slowDelete_delayed tags _
  simp only [execute, hselect, hway]

/-- **A deletion that no limit ends** is the same without one. -/
theorem execute_eq_unthrottled
    (h : service.DeletesByName r s → ¬service.RunsOut r path tags (service.probed r s)) :
    service.execute r path tags s = service.unthrottled.execute r path tags s := by
  by_cases hne : tags = []
  · subst hne
    rfl
  by_cases hby : service.DeletesByName r s
  · -- the same calls with a limit that suffices and with none
    have hwithin := h hby
    rw [runsOut_iff, Bool.not_eq_true] at hwithin
    rw [execute_eq_report hby hne, execute_unthrottled_eq_report hby hne, fastDelete, fastDelete,
      deleteEach_eq_of_within hwithin]
    rfl
  · -- no way is chosen that has a limit
    have hselect : service.unthrottled.selectStrategy r s = service.selectStrategy r s := by
      rw [selectStrategy, selectStrategy, enabled_unthrottled]
      split
      · rename_i he
        rcases ha : (r.supportsTagDelete s).2.answer with e | _ | _
        · simp only [ha]
        · simp only [ha]
        · exact absurd ⟨he, ha⟩ hby
      · rfl
    rw [execute, execute, hselect]

/-- **A deletion times out** exactly if it is by name and takes longer than its limit. -/
theorem times_out_iff :
    (service.execute r path tags s).outcome = .error "Timeout while deleting tags" ↔
      service.DeletesByName r s ∧ service.RunsOut r path tags (service.probed r s) := by
  by_cases hne : tags = []
  · have hnever : ¬service.RunsOut r path tags (service.probed r s) := fun hrun => hrun.ne_nil hne
    subst hne
    rw [execute_nil, DeleteResponse.ofOutcome_eq_timeout_iff]
    simp [hnever]
  by_cases hby : service.DeletesByName r s
  · rw [(execute_of_deletesByName hby hne).2, DeleteResponse.ofOutcome_eq_timeout_iff, runsOut_iff,
      fastDelete, Work.map, outcome_deleteEach]
    cases isLonger (totalDelay (r.namesDeleted path tags (service.probed r s)))
        (service.limit?.bind Duration.ticks?) with
    | true => simp [fastOutcome, hby]
    | false =>
      cases answered isDeleted (r.namesDeleted path tags (service.probed r s)) <;>
        simp [fastOutcome]
  · rw [(execute_of_not_deletesByName hby hne).2, DeleteResponse.ofOutcome_eq_timeout_iff]
    constructor
    · rintro ⟨count, hcount⟩
      exact absurd hcount (slowDelete_ne_timeout tags _ count)
    · rintro ⟨hby', -⟩
      exact absurd hby' hby

theorem calls_prefix_unthrottled (hby : service.DeletesByName r s) :
    (service.execute r path tags s).calls <+:
      (service.unthrottled.execute r path tags s).calls := by
  by_cases hne : tags = []
  · subst hne
    exact List.prefix_rfl
  · obtain ⟨made, hmade, hcalls, -, -⟩ := calls_deleteEach r path
      (service.limit?.bind Duration.ticks?) tags (service.probed r s)
    have hfast : (fastDelete r service.limit? path tags (service.probed r s)).calls =
        made.map (.deleteTagByName path) := hcalls
    have hnone : (fastDelete r none path tags (service.probed r s)).calls =
        tags.map (.deleteTagByName path) := calls_deleteEach_none tags _
    rw [execute_eq_report hby hne, execute_unthrottled_eq_report hby hne, report, report, hfast,
      hnone]
    exact (List.prefix_append_right_inj _).2 (hmade.map _)

/-- **What a deletion that times out tells**: what it would tell without a limit, and then that. -/
theorem events_of_runsOut (hby : service.DeletesByName r s)
    (hrun : service.RunsOut r path tags (service.probed r s)) :
    ∃ told, (service.execute r path tags s).events = told ++ [.timedOut tags.length] ∧
      told <+: (service.unthrottled.execute r path tags s).events := by
  have hne := hrun.ne_nil
  rw [runsOut_iff] at hrun
  have houtcome : (fastDelete r service.limit? path tags (service.probed r s)).outcome =
      .error (.timeout tags.length) := by
    rw [fastDelete, Work.map, outcome_deleteEach, if_pos hrun]
    rfl
  refine ⟨(fastDelete r service.limit? path tags (service.probed r s)).events, ?_, ?_⟩
  · rw [execute_eq_report hby hne, report, houtcome]
    rfl
  · rw [execute_unthrottled_eq_report hby hne]
    exact (prefix_events_deleteEach _ tags _).trans (List.prefix_append _ _)

/-- **The calls of a deletion that times out** are those before the end of its limit, and the one
during which it ends. -/
theorem calls_of_runsOut {ms : Nat} (hby : service.DeletesByName r s)
    (hlimit : service.limit.toNanos = ms * 1000000)
    (hrun : service.RunsOut r path tags (service.probed r s)) :
    ∃ completed tag, completed ++ [tag] <+: tags ∧
      (service.execute r path tags s).calls =
        service.probe ++ (completed ++ [tag]).map (.deleteTagByName path) ∧
      totalDelay (r.namesDeleted path completed (service.probed r s)) ≤ ms ∧
      ms < totalDelay (r.namesDeleted path (completed ++ [tag]) (service.probed r s)) := by
  obtain ⟨hthrottled, hms, hlong⟩ := (runsOut_iff_of_millis hlimit).1 hrun
  have hticks : service.limit?.bind Duration.ticks? = some ms := by
    rw [limit?, if_pos hthrottled, Option.bind_some, Duration.ticks?_of_millis hlimit, if_pos hms]
  have hlonger : ∀ delay, isLonger delay (some ms) = decide (ms < delay) := fun delay => rfl
  obtain ⟨made, hmade, hcalls, hbefore, hend⟩ := calls_deleteEach r path
    (service.limit?.bind Duration.ticks?) tags (service.probed r s)
  have hfast : (fastDelete r service.limit? path tags (service.probed r s)).calls =
      made.map (.deleteTagByName path) := hcalls
  rw [hticks, hlonger, decide_eq_false_iff_not, Nat.not_lt] at hbefore
  rw [hticks, hlonger, decide_eq_true_eq] at hend
  have hover : ms < totalDelay (r.namesDeleted path made (service.probed r s)) := by
    rcases hend with rfl | hend
    · exact hlong
    · exact hend
  obtain rfl | ⟨completed, tag, rfl⟩ := List.eq_nil_or_concat' made
  · exact absurd hover (Nat.not_lt_zero ms)
  · rw [List.dropLast_concat] at hbefore
    refine ⟨completed, tag, hmade, ?_, hbefore, hover⟩
    rw [(execute_of_deletesByName hby hrun.ne_nil).1, hfast]

/-- **Throttling is all or nothing.** Tags are deleted by name within a limit. If the delays of all
calls together are no longer than the limit, everything is as without it. If they are longer, the
answer is that the time ran out, with no deleted tags, and the calls until then, like what was told
of them, are the first of those without a limit: some that were completed in time, and one that was
not. No delay of another call counts, and without throttling, or by digest, no delay at all does and
the time does not run out. -/
theorem throttling_all_or_nothing (service : DeleteService) (r : Registry σ μ) (path : String)
    (tags : List String) (s : σ) :
    (∀ ms, service.flags.enabled Flags.throttledTagDelete false = true →
      service.DeletesByName r s → service.limit.toNanos = ms * 1000000 →
      (totalDelay (r.namesDeleted path tags (service.probed r s)) ≤ ms →
        service.execute r path tags s = service.unthrottled.execute r path tags s) ∧
      (ms < lastTick → ms < totalDelay (r.namesDeleted path tags (service.probed r s)) →
        (service.execute r path tags s).outcome = .error "Timeout while deleting tags" ∧
        (service.execute r path tags s).outcome.deleted = [] ∧
        (service.execute r path tags s).calls <+:
          (service.unthrottled.execute r path tags s).calls ∧
        (∃ completed tag, completed ++ [tag] <+: tags ∧
          (service.execute r path tags s).calls =
            service.probe ++ (completed ++ [tag]).map (.deleteTagByName path) ∧
          totalDelay (r.namesDeleted path completed (service.probed r s)) ≤ ms ∧
          ms < totalDelay (r.namesDeleted path (completed ++ [tag]) (service.probed r s))) ∧
        ∃ told, (service.execute r path tags s).events = told ++ [.timedOut tags.length] ∧
          told <+: (service.unthrottled.execute r path tags s).events)) ∧
    (∀ delay : RegistryCall μ → σ → Nat,
      (∀ tag s, delay (.deleteTagByName path tag) s = (r.deleteTagByName path tag s).2.delay) →
        service.execute (r.delayed delay) path tags s = service.execute r path tags s) ∧
    (service.flags.enabled Flags.throttledTagDelete false = false ∨ ¬service.DeletesByName r s →
      (service.execute r path tags s).outcome ≠ .error "Timeout while deleting tags" ∧
      ∀ delay : RegistryCall μ → σ → Nat,
        service.execute (r.delayed delay) path tags s = service.execute r path tags s) := by
  refine ⟨fun ms hthrottled hby hlimit => ⟨fun hwithin => ?_, fun hms hlong => ?_⟩, ?_, ?_⟩
  · apply execute_eq_unthrottled
    intro _ hrun
    obtain ⟨-, -, hlong⟩ := (runsOut_iff_of_millis hlimit).1 hrun
    exact Nat.not_lt.2 hwithin hlong
  · have hrun : service.RunsOut r path tags (service.probed r s) :=
      (runsOut_iff_of_millis hlimit).2 ⟨hthrottled, hms, hlong⟩
    have htimeout := times_out_iff.2 ⟨hby, hrun⟩
    refine ⟨htimeout, ?_, calls_prefix_unthrottled hby, calls_of_runsOut hby hlimit hrun,
      events_of_runsOut hby hrun⟩
    rw [htimeout]
    rfl
  · intro delay hdelay
    exact execute_delayed fun _ _ => hdelay
  · intro hfree
    have hnever : service.DeletesByName r s →
        service.flags.enabled Flags.throttledTagDelete false ≠ true := by
      intro hby hthrottled
      rcases hfree with hoff | hnot
      · rw [hoff] at hthrottled
        cases hthrottled
      · exact hnot hby
    constructor
    · rw [ne_eq, times_out_iff]
      rintro ⟨hby, hthrottled, -⟩
      exact hnever hby hthrottled
    · intro delay
      exact execute_delayed fun hby hthrottled => absurd hthrottled (hnever hby)

/-- A registry that takes five seconds to say what it can do, and ten milliseconds for a tag. -/
def unhurriedRegistry : Registry Nat Unit where
  supportsTagDelete s := (s + 1, ⟨5000, .ok true⟩)
  deleteTagByName _ tag s := (s + 1, ⟨10, .ok (tag ≠ "b")⟩)
  generateEmptyManifest _ s := (s + 1, ⟨0, .ok none⟩)
  putTag _ _ _ s := (s + 1, ⟨0, .ok none⟩)
  deleteTagByDigest _ _ s := (s + 1, ⟨0, .ok false⟩)

/-- A service with a limit of twenty milliseconds. -/
def hurriedService : DeleteService :=
  ⟨Flags.set Dict.empty Flags.throttledTagDelete true, (Duration.ofMillis? 20).getD Duration.max⟩

/-- Two tags end just in time, and a third one is too many. -/
theorem throttling_all_or_nothing_third_tag :
    (hurriedService.execute unhurriedRegistry "group/project" ["a", "b"] 0).outcome =
        .success ["a"] ∧
      (hurriedService.execute unhurriedRegistry "group/project" ["a", "b", "c"] 0).outcome =
        .error "Timeout while deleting tags" := by
  have hby : hurriedService.DeletesByName unhurriedRegistry 0 := ⟨by decide, rfl⟩
  have hthrottled : hurriedService.flags.enabled Flags.throttledTagDelete false = true := by decide
  have hlimit : hurriedService.limit.toNanos = 20 * 1000000 := by decide
  constructor
  · obtain ⟨htwo, -, -⟩ :=
      throttling_all_or_nothing hurriedService unhurriedRegistry "group/project" ["a", "b"] 0
    rw [(htwo 20 hthrottled hby hlimit).1 (by decide)]
    decide
  · obtain ⟨hthree, -, -⟩ :=
      throttling_all_or_nothing hurriedService unhurriedRegistry "group/project" ["a", "b", "c"] 0
    exact ((hthree 20 hthrottled hby hlimit).2 (by decide) (by decide)).1

end DeleteService

end Replica
