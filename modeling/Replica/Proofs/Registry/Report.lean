import Mathlib.Data.List.Basic
import Replica.Proofs.Registry.Answers

/-!
# What a deletion by digest leaves behind

A deletion by digest points every tag at an empty manifest and then deletes one digest: that of the
first tag. Whether the tags it reports are gone depends on the digests of the others.

* `TagView`: what the tags of a repository point at, and what its registry does to that;
* `replaceAll`: the part of `slowDelete` before the digest is deleted, and `slowDelete_eq_ok` what
  a successful deletion did after it;
* `lastDigest?`, **`TagView.digest?_putEach`**: a tag points at the digest of its last put;
* **`slowDelete_gone_iff`**: a reported tag is gone if and only if its last digest is the first of
  all. So the report is true if the puts agree, which is if no warning is told, and for tags that
  are named once it is true only then;
* `slowDelete_reports_remaining_tag`: two tags with digests of their own. Both are reported, and
  the second is still there.
-/

namespace Replica

variable {σ μ : Type}

/-- **What the tags of a repository point at**, as its registry keeps it. -/
structure TagView (r : Registry σ μ) (path : String) where
  /-- The digest that a tag points at, if the tag is there. -/
  digest? : σ → String → Option String
  /-- A put that is answered with a digest points its tag, and no other, at it. -/
  put : ∀ tag manifest s digest, (r.putTag path tag manifest s).2.answer = .ok (some digest) →
    ∀ t, digest? (r.putTag path tag manifest s).1 t = if t = tag then some digest else digest? s t
  /-- A deletion that is answered positively removes the tags that point at the digest. -/
  delete : ∀ digest s, (r.deleteTagByDigest path digest s).2.answer = .ok true →
    ∀ t, digest? (r.deleteTagByDigest path digest s).1 t =
      if digest? s t = some digest then none else digest? s t

/-- A put that is not answered with a digest changes no tag. -/
def TagView.KeepsUnanswered {r : Registry σ μ} {path : String} (v : TagView r path) : Prop :=
  ∀ tag manifest s, (∀ digest, (r.putTag path tag manifest s).2.answer ≠ .ok (some digest)) →
    ∀ t, v.digest? (r.putTag path tag manifest s).1 t = v.digest? s t

/-! ## The two parts of a deletion -/

/-- **Every tag pointed at the empty manifest**, with the digests that came back. -/
def replaceAll (r : Registry σ μ) (path : String) (tags : List String) (s : σ) :
    Work σ μ (List (String × String)) :=
  (makeManifest r path s).andThen fun manifest? s =>
    match manifest? with
    | none => ⟨s, [], [], []⟩
    | some manifest => putEach r path manifest tags s

section

variable {r : Registry σ μ} {path : String} {tags : List String} {s : σ} {deleted : List String}

theorem deleteDigest_eq_ok {replaced : List (String × String)}
    (h : (deleteDigest r path replaced s).outcome = .ok deleted) :
    ∃ first others, replaced = first :: others ∧ deleted = replaced.map (·.1) ∧
      (r.deleteTagByDigest path first.2 s).2.answer = .ok true ∧
      (deleteDigest r path replaced s).state = (r.deleteTagByDigest path first.2 s).1 ∧
      (deleteDigest r path replaced s).events = digestEvents first.2 others := by
  cases replaced with
  | nil => cases h
  | cons first others =>
    have hd : (digestOutcome first.2 ((first :: others).map (·.1))
        (r.deleteTagByDigest path first.2 s).2.answer).2 = .ok deleted := h
    rcases ha : (r.deleteTagByDigest path first.2 s).2.answer with e | b
    · rw [ha] at hd; cases hd
    · rw [ha] at hd
      cases b with
      | false => cases hd
      | true =>
        refine ⟨first, others, rfl, (Except.ok.inj hd).symm, ha, rfl, ?_⟩
        simp [deleteDigest, ha, digestOutcome]

/-- **What a successful deletion did** after the tags were replaced. -/
theorem slowDelete_eq_ok (h : (slowDelete r path tags s).outcome = .ok deleted) :
    ∃ first others, (replaceAll r path tags s).outcome = first :: others ∧
      deleted = (replaceAll r path tags s).outcome.map (·.1) ∧
      (r.deleteTagByDigest path first.2 (replaceAll r path tags s).state).2.answer = .ok true ∧
      (slowDelete r path tags s).state =
        (r.deleteTagByDigest path first.2 (replaceAll r path tags s).state).1 ∧
      (slowDelete r path tags s).events =
        (replaceAll r path tags s).events ++ digestEvents first.2 others := by
  cases hm : (makeManifest r path s).outcome with
  | none => simp [slowDelete, Work.andThen, hm] at h
  | some manifest =>
    have hr : replaceAll r path tags s = (makeManifest r path s).andThen
        fun _ s => putEach r path manifest tags s := by
      simp only [replaceAll, Work.andThen, hm]
    have hs : slowDelete r path tags s = (replaceAll r path tags s).andThen
        fun replaced s => deleteDigest r path replaced s := by
      simp only [slowDelete, hr, Work.andThen, hm, List.append_assoc]
    rw [hs] at h ⊢
    obtain ⟨first, others, ho, hd, ha, hstate, he⟩ := deleteDigest_eq_ok h
    exact ⟨first, others, ho, hd, ha, hstate, congrArg (_ ++ ·) he⟩

/-! ## Replacing tags -/

/-- The digest of the last put of a tag. -/
def lastDigest? (tag : String) : List (String × String) → Option String
  | [] => none
  | e :: rest => (lastDigest? tag rest).or (if tag = e.1 then some e.2 else none)

theorem lastDigest?_eq_none_iff {tag : String} {replaced : List (String × String)} :
    lastDigest? tag replaced = none ↔ tag ∉ replaced.map (·.1) := by
  induction replaced with
  | nil => simp [lastDigest?]
  | cons e rest ih => simp [lastDigest?, Option.or_eq_none_iff, ih, and_comm]

theorem mem_of_lastDigest? {tag digest : String} {replaced : List (String × String)}
    (h : lastDigest? tag replaced = some digest) : (tag, digest) ∈ replaced := by
  induction replaced with
  | nil => cases h
  | cons e rest ih =>
    rw [lastDigest?, Option.or_eq_some_iff] at h
    rcases h with h | ⟨-, h⟩
    · exact List.mem_cons_of_mem _ (ih h)
    · split at h
      · rename_i ht
        obtain rfl := Option.some.inj h
        exact ht ▸ List.mem_cons_self
      · cases h

theorem lastDigest?_eq_some {e : String × String} {replaced : List (String × String)}
    (hn : (replaced.map (·.1)).Nodup) (he : e ∈ replaced) :
    lastDigest? e.1 replaced = some e.2 := by
  induction replaced with
  | nil => cases he
  | cons a rest ih =>
    have ha := List.nodup_cons.1 hn
    rcases List.mem_cons.1 he with rfl | he
    · rw [lastDigest?, lastDigest?_eq_none_iff.2 ha.1, if_pos rfl, Option.none_or]
    · rw [lastDigest?, ih ha.2 he, Option.some_or]

theorem sublist_replaceAll :
    ((replaceAll r path tags s).outcome.map (·.1)).Sublist tags := by
  cases hm : (makeManifest r path s).outcome with
  | none => simp [replaceAll, Work.andThen, hm]
  | some manifest =>
    simpa only [replaceAll, Work.andThen, hm] using sublist_putEach r path manifest tags _

/-- **A tag points at the digest of its last put**, and without one at what it pointed at before. -/
theorem TagView.digest?_putEach (v : TagView r path) (hv : v.KeepsUnanswered) (manifest : μ)
    (tags : List String) (s : σ) (t : String) :
    v.digest? (putEach r path manifest tags s).state t =
      (lastDigest? t (putEach r path manifest tags s).outcome).or (v.digest? s t) := by
  induction tags generalizing s with
  | nil => rfl
  | cons tag tags ih =>
    rw [putEach]
    simp only [ih]
    rcases ha : (r.putTag path tag manifest s).2.answer with e | digest?
    · rw [hv tag manifest s (fun d h => by rw [ha] at h; cases h)]
      rfl
    · cases digest? with
      | none =>
        rw [hv tag manifest s (fun d h => by rw [ha] at h; cases h)]
        rfl
      | some digest =>
        rw [v.put tag manifest s digest ha]
        simp only [tagWithDigest, List.singleton_append, lastDigest?, Option.or_assoc]
        split <;> rfl

theorem TagView.digest?_replaceAll (v : TagView r path) (hv : v.KeepsUnanswered) {tag : String}
    (h : tag ∈ (replaceAll r path tags s).outcome.map (·.1)) :
    v.digest? (replaceAll r path tags s).state tag =
      lastDigest? tag (replaceAll r path tags s).outcome := by
  cases hm : (makeManifest r path s).outcome with
  | none => simp [replaceAll, Work.andThen, hm] at h
  | some manifest =>
    simp only [replaceAll, Work.andThen, hm] at h ⊢
    rw [v.digest?_putEach hv]
    obtain ⟨digest, hd⟩ := Option.ne_none_iff_exists'.1 (mt lastDigest?_eq_none_iff.1 (not_not.2 h))
    rw [hd, Option.some_or]

/-! ## The warning -/

theorem severalDigests_notMem_putEvents (tag : String) (answer : Except String (Option String)) :
    RegistryEvent.severalDigests ∉ putEvents tag answer := by
  rcases answer with e | digest?
  · simp [putEvents]
  · cases digest? <;> simp [putEvents]

theorem severalDigests_notMem_putEach (manifest : μ) (tags : List String) (s : σ) :
    RegistryEvent.severalDigests ∉ (putEach r path manifest tags s).events := by
  induction tags generalizing s with
  | nil => simp [putEach]
  | cons tag tags ih =>
    rw [putEach]
    simpa using ⟨severalDigests_notMem_putEvents tag _, ih _⟩

theorem severalDigests_notMem_replaceAll :
    RegistryEvent.severalDigests ∉ (replaceAll r path tags s).events := by
  have hmake : RegistryEvent.severalDigests ∉ (makeManifest r path s).events := by
    rcases ha : (r.generateEmptyManifest path s).2.answer with e | manifest? <;>
      simp [makeManifest, ha]
  cases hm : (makeManifest r path s).outcome with
  | none => simpa [replaceAll, Work.andThen, hm] using hmake
  | some manifest =>
    simpa [replaceAll, Work.andThen, hm] using
      ⟨hmake, severalDigests_notMem_putEach manifest tags _⟩

theorem severalDigests_notMem_digestEvents {digest : String} {others : List (String × String)} :
    RegistryEvent.severalDigests ∉ digestEvents digest others ↔ ∀ e ∈ others, e.2 = digest := by
  unfold digestEvents
  split
  · rename_i h
    simpa using h
  · rename_i h
    simpa using h

/-! ## The report -/

/-- **A reported tag is gone if and only if its last digest is the one that is deleted**, the first
of all. Every other tag that pointed at that digest is gone too, and no tag besides. -/
theorem slowDelete_gone_iff (v : TagView r path)
    (h : (slowDelete r path tags s).outcome = .ok deleted) :
    ∃ digest, (replaceAll r path tags s).outcome.head?.map (·.2) = some digest ∧
      (∀ t, v.digest? (slowDelete r path tags s).state t =
        if v.digest? (replaceAll r path tags s).state t = some digest then none
        else v.digest? (replaceAll r path tags s).state t) ∧
      (v.KeepsUnanswered →
        (∀ tag ∈ deleted, v.digest? (slowDelete r path tags s).state tag = none ↔
          lastDigest? tag (replaceAll r path tags s).outcome = some digest) ∧
        (.severalDigests ∉ (slowDelete r path tags s).events →
          ∀ tag ∈ deleted, v.digest? (slowDelete r path tags s).state tag = none) ∧
        (tags.Nodup → (∀ tag ∈ deleted, v.digest? (slowDelete r path tags s).state tag = none) →
          .severalDigests ∉ (slowDelete r path tags s).events)) := by
  obtain ⟨first, others, ho, rfl, ha, hstate, hevents⟩ := slowDelete_eq_ok h
  have hview : ∀ t, v.digest? (slowDelete r path tags s).state t =
      if v.digest? (replaceAll r path tags s).state t = some first.2 then none
      else v.digest? (replaceAll r path tags s).state t := by
    rw [hstate]
    exact v.delete first.2 _ ha
  have hwarn : .severalDigests ∉ (slowDelete r path tags s).events ↔
      ∀ e ∈ others, e.2 = first.2 := by
    rw [hevents, List.mem_append, not_or, severalDigests_notMem_digestEvents]
    exact and_iff_right severalDigests_notMem_replaceAll
  refine ⟨first.2, by rw [ho]; rfl, hview, fun hv => ?_⟩
  have hgone : ∀ tag ∈ (replaceAll r path tags s).outcome.map (·.1),
      v.digest? (slowDelete r path tags s).state tag = none ↔
        lastDigest? tag (replaceAll r path tags s).outcome = some first.2 := by
    intro tag ht
    rw [hview, v.digest?_replaceAll hv ht]
    split
    · rename_i hd
      simp [hd]
    · rename_i hd
      simp [hd, lastDigest?_eq_none_iff, ht]
  refine ⟨hgone, fun hw tag ht => (hgone tag ht).2 ?_, fun hn hall => hwarn.2 fun e he => ?_⟩
  · obtain ⟨digest, hd⟩ :=
      Option.ne_none_iff_exists'.1 (mt lastDigest?_eq_none_iff.1 (not_not.2 ht))
    have hmem := mem_of_lastDigest? hd
    rw [ho] at hmem
    rcases List.mem_cons.1 hmem with he | he
    · rw [hd, ← he]
    · rw [hd, ← hwarn.1 hw _ he]
  · have hmem : e ∈ (replaceAll r path tags s).outcome := by
      rw [ho]
      exact List.mem_cons_of_mem _ he
    have hlast := lastDigest?_eq_some (sublist_replaceAll.nodup hn) hmem
    have := (hgone e.1 (List.mem_map_of_mem hmem)).1 (hall e.1 (List.mem_map_of_mem hmem))
    rw [hlast] at this
    exact Option.some.inj this

end

/-! ## Digests that differ -/

/-- A registry whose manifests carry the tag they are put under, so that every tag has a digest of
its own. Its state is what the tags point at. -/
def taggedManifests : Registry (String → Option String) Unit where
  supportsTagDelete s := (s, ⟨0, .ok false⟩)
  deleteTagByName _ _ s := (s, ⟨0, .ok false⟩)
  generateEmptyManifest _ s := (s, ⟨0, .ok (some ())⟩)
  putTag _ tag _ s :=
    (fun t => if t = tag then some ("sha256:" ++ tag) else s t, ⟨0, .ok (some ("sha256:" ++ tag))⟩)
  deleteTagByDigest _ digest s := (fun t => if s t = some digest then none else s t, ⟨0, .ok true⟩)

/-- The state as a view. -/
def taggedView (path : String) : TagView taggedManifests path where
  digest? s t := s t
  put tag manifest s digest h t := by
    obtain rfl := Option.some.inj (Except.ok.inj h)
    rfl
  delete digest s _ t := rfl

theorem keepsUnanswered_taggedView (path : String) : (taggedView path).KeepsUnanswered :=
  fun _ _ _ h => absurd rfl (h _)

/-- **A tag that is reported and still there.** -/
theorem slowDelete_reports_remaining_tag :
    (slowDelete taggedManifests "group/project" ["a", "b"] fun _ => none).outcome =
        .ok ["a", "b"] ∧
      (taggedView "group/project").digest?
        (slowDelete taggedManifests "group/project" ["a", "b"] fun _ => none).state "b" =
          some "sha256:b" := by
  decide

/-- The theorem at the same two tags: the digest of the first is deleted. -/
theorem slowDelete_gone_iff_two_digests :
    (slowDelete taggedManifests "group/project" ["a", "b"] fun _ => none).outcome =
        .ok ["a", "b"] ∧
      ∀ tag ∈ ["a", "b"],
        (taggedView "group/project").digest?
            (slowDelete taggedManifests "group/project" ["a", "b"] fun _ => none).state tag = none ↔
          lastDigest? tag [("a", "sha256:a"), ("b", "sha256:b")] = some "sha256:a" := by
  have h : (slowDelete taggedManifests "group/project" ["a", "b"] fun _ => none).outcome =
      .ok ["a", "b"] := by decide
  obtain ⟨digest, hd, -, hgone⟩ := slowDelete_gone_iff (taggedView "group/project") h
  obtain rfl : "sha256:a" = digest := Option.some.inj hd
  exact ⟨h, (hgone (keepsUnanswered_taggedView _)).1⟩

end Replica
