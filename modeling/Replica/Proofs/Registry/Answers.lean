import Mathlib.Data.List.Basic
import Replica.Registry.Service

/-!
# The answers of a registry

A registry may answer every call as it likes, and change with it. What is said of a deletion is said
of the answers to its calls, made one after the other.

* `callEach`: a call for each of some names in turn, with all answers;
* `totalDelay`, `answered`, `firstDigest?`: the time that answers take, the names with a positive
  one, and the first digest in them;
* **`outcome_deleteEach`**, **`calls_deleteEach`**: a deletion by name in terms of the answers: it
  has the names with a positive one unless the time runs out, and makes its calls in order until
  then;
* **`putEach_eq`**: the same for tags that are pointed at a manifest.
-/

namespace Replica

variable {σ μ α : Type}

/-! ## Calls in turn -/

/-- **A call for each name**, in turn: the state that is left, and each name with its answer. -/
def callEach (call : String → σ → σ × Timed α) : List String → σ → σ × List (String × Timed α)
  | [], s => (s, [])
  | name :: names, s =>
    let answer := call name s
    let rest := callEach call names answer.1
    (rest.1, (name, answer.2) :: rest.2)

/-- The milliseconds that answers take together. -/
def totalDelay (answers : List (String × Timed α)) : Nat :=
  answers.foldr (fun a rest => a.2.delay + rest) 0

/-- **The names whose answer is positive**, in order and as often as they were called for. -/
def answered (isPositive : Except String α → Bool) (answers : List (String × Timed α)) :
    List String :=
  (answers.filter fun a => isPositive a.2.answer).map (·.1)

theorem map_fst_callEach (call : String → σ → σ × Timed α) (names : List String) (s : σ) :
    (callEach call names s).2.map (·.1) = names := by
  induction names generalizing s with
  | nil => rfl
  | cons name names ih => exact congrArg (name :: ·) (ih _)

theorem sublist_answered (isPositive : Except String α → Bool) (call : String → σ → σ × Timed α)
    (names : List String) (s : σ) :
    (answered isPositive (callEach call names s).2).Sublist names := by
  have h := (List.filter_sublist (p := fun a : String × Timed α => isPositive a.2.answer)
    (l := (callEach call names s).2)).map Prod.fst
  rwa [map_fst_callEach] at h

/-- A positive answer to a deletion. -/
def isDeleted : Except String Bool → Bool
  | .ok true => true
  | _ => false

/-- The digest in the answer to a put. -/
def digest? : Except String (Option String) → Option String
  | .ok digest? => digest?
  | .error _ => none

/-- **The first digest** in the answers to some puts. -/
def firstDigest? (answers : List (String × Timed (Option String))) : Option String :=
  answers.findSome? fun a => digest? a.2.answer

namespace Registry

/-- The answers to deletions by name. -/
def namesDeleted (r : Registry σ μ) (path : String) (tags : List String) (s : σ) :
    List (String × Timed Bool) :=
  (callEach (r.deleteTagByName path) tags s).2

/-- Puts of one manifest: the state that is left, and the answers. -/
def tagsPut (r : Registry σ μ) (path : String) (manifest : μ) (tags : List String) (s : σ) :
    σ × List (String × Timed (Option String)) :=
  callEach (fun tag => r.putTag path tag manifest) tags s

end Registry

/-! ## Time -/

theorem isLonger_zero (left? : Option Nat) : isLonger 0 left? = false := by
  cases left? with
  | none => rfl
  | some left => exact decide_eq_false (Nat.not_lt_zero left)

theorem isLonger_add {delay : Nat} {left? : Option Nat} (more : Nat)
    (h : isLonger delay left? = true) : isLonger (delay + more) left? = true := by
  cases left? with
  | none => cases h
  | some left =>
    have hlt : left < delay := of_decide_eq_true h
    exact decide_eq_true (Nat.lt_add_right more hlt)

theorem isLonger_map_sub {delay : Nat} {left? : Option Nat} (more : Nat)
    (h : isLonger delay left? = false) :
    isLonger more (left?.map (· - delay)) = isLonger (delay + more) left? := by
  cases left? with
  | none => rfl
  | some left =>
    have hle : ¬left < delay := of_decide_eq_false h
    simp only [Option.map_some, isLonger, decide_eq_decide]
    omega

/-! ## Deleting by name -/

section

variable (r : Registry σ μ) (path : String)

theorem tagIfDeleted_eq (tag : String) (answer : Except String Bool) :
    tagIfDeleted tag answer = if isDeleted answer then [tag] else [] := by
  rcases answer with e | _ | _ <;> rfl

/-- **What is deleted by name**: the tags with a positive answer, or nothing if the answers take
longer than the limit. -/
theorem outcome_deleteEach (left? : Option Nat) (tags : List String) (s : σ) :
    (deleteEach r path left? tags s).outcome =
      if isLonger (totalDelay (r.namesDeleted path tags s)) left? then none
      else some (answered isDeleted (r.namesDeleted path tags s)) := by
  induction tags generalizing left? s with
  | nil => exact (if_neg (Bool.eq_false_iff.1 (isLonger_zero left?))).symm
  | cons tag tags ih =>
    have htotal : totalDelay (r.namesDeleted path (tag :: tags) s) =
        (r.deleteTagByName path tag s).2.delay +
          totalDelay (r.namesDeleted path tags (r.deleteTagByName path tag s).1) := rfl
    have hanswered : answered isDeleted (r.namesDeleted path (tag :: tags) s) =
        tagIfDeleted tag (r.deleteTagByName path tag s).2.answer ++
          answered isDeleted (r.namesDeleted path tags (r.deleteTagByName path tag s).1) := by
      rw [tagIfDeleted_eq, Registry.namesDeleted, callEach, answered, List.filter_cons]
      split <;> rfl
    rw [deleteEach, htotal, hanswered]
    cases hlong : isLonger (r.deleteTagByName path tag s).2.delay left? with
    | true => simp [isLonger_add _ hlong]
    | false =>
      simp only [Bool.false_eq_true, if_false, ih, isLonger_map_sub _ hlong]
      split <;> rfl

/-- **The calls of a deletion by name** are for the tags in order, up to the one during which the
time runs out. -/
theorem calls_deleteEach (left? : Option Nat) (tags : List String) (s : σ) :
    ∃ made, made <+: tags ∧
      (deleteEach r path left? tags s).calls = made.map (.deleteTagByName path) ∧
      isLonger (totalDelay (r.namesDeleted path made.dropLast s)) left? = false ∧
      (made = tags ∨ isLonger (totalDelay (r.namesDeleted path made s)) left? = true) := by
  induction tags generalizing left? s with
  | nil => exact ⟨[], List.prefix_rfl, rfl, isLonger_zero left?, .inl rfl⟩
  | cons tag tags ih =>
    rw [deleteEach]
    cases hlong : isLonger (r.deleteTagByName path tag s).2.delay left? with
    | true => exact ⟨[tag], ⟨tags, rfl⟩, rfl, isLonger_zero left?, .inr hlong⟩
    | false =>
      obtain ⟨made, hprefix, hcalls, hbefore, hend⟩ :=
        ih (left?.map (· - (r.deleteTagByName path tag s).2.delay))
          (r.deleteTagByName path tag s).1
      rw [isLonger_map_sub _ hlong] at hbefore hend
      refine ⟨tag :: made, List.cons_prefix_cons.2 ⟨rfl, hprefix⟩, ?_, ?_, ?_⟩
      · exact congrArg (RegistryCall.deleteTagByName path tag :: ·) hcalls
      · cases made with
        | nil => exact isLonger_zero left?
        | cons next made => exact hbefore
      · exact hend.imp_left (congrArg (tag :: ·))

/-! ## Pointing tags at a manifest -/

/-- **What is put**: the calls are for the tags in order, and the tags with a digest in their answer
are kept with it. -/
theorem putEach_eq (manifest : μ) (tags : List String) (s : σ) :
    (putEach r path manifest tags s).state = (r.tagsPut path manifest tags s).1 ∧
      (putEach r path manifest tags s).calls = tags.map (.putTag path · manifest) ∧
      (putEach r path manifest tags s).outcome =
        (r.tagsPut path manifest tags s).2.filterMap
          fun a => (digest? a.2.answer).map fun digest => (a.1, digest) := by
  induction tags generalizing s with
  | nil => exact ⟨rfl, rfl, rfl⟩
  | cons tag tags ih =>
    obtain ⟨hstate, hcalls, houtcome⟩ := ih (r.putTag path tag manifest s).1
    refine ⟨hstate, congrArg (RegistryCall.putTag path tag manifest :: ·) hcalls, ?_⟩
    rw [putEach, Registry.tagsPut, callEach]
    simp only [houtcome]
    rcases ha : (r.putTag path tag manifest s).2.answer with e | _ | digest
    · simp [tagWithDigest, digest?, ha, Registry.tagsPut]
    · simp [tagWithDigest, digest?, ha, Registry.tagsPut]
    · simp [tagWithDigest, digest?, ha, Registry.tagsPut]

theorem map_fst_outcome_putEach (manifest : μ) (tags : List String) (s : σ) :
    (putEach r path manifest tags s).outcome.map (·.1) =
      answered (fun answer => (digest? answer).isSome) (r.tagsPut path manifest tags s).2 := by
  rw [(putEach_eq r path manifest tags s).2.2, answered]
  generalize (r.tagsPut path manifest tags s).2 = answers
  induction answers with
  | nil => rfl
  | cons a answers ih =>
    cases ha : digest? a.2.answer with
    | none => simpa [ha] using ih
    | some digest => simpa [ha] using ih

theorem sublist_putEach (manifest : μ) (tags : List String) (s : σ) :
    ((putEach r path manifest tags s).outcome.map (·.1)).Sublist tags := by
  rw [map_fst_outcome_putEach]
  exact sublist_answered _ _ tags s

theorem head?_outcome_putEach (manifest : μ) (tags : List String) (s : σ) :
    (putEach r path manifest tags s).outcome.head?.map (·.2) =
      firstDigest? (r.tagsPut path manifest tags s).2 := by
  rw [(putEach_eq r path manifest tags s).2.2, firstDigest?]
  generalize (r.tagsPut path manifest tags s).2 = answers
  induction answers with
  | nil => rfl
  | cons a answers ih =>
    cases ha : digest? a.2.answer with
    | none => simpa [ha] using ih
    | some digest => simp [ha]

end

end Replica
