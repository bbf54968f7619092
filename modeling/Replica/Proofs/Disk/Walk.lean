import Mathlib.Data.List.Basic
import Replica.Disk.View
import Replica.Proofs.Disk.Paths

/-!
# Where steps pass

A walk passes through directories and symbolic links; only at its end can there be a file, or
nothing. What it passes does not depend on what follows, and files do not matter to it.

* `walk_dot`, `walk_up`, `walk_name`: one step of a walk;
* `Passes`: the steps that lead from directory to directory, with the symbolic links that may still
  be followed behind them;
* **`Passes.walk_append`**, **`passes_of_walk`**: a walk is what its first steps pass, and then the
  rest of it;
* **`Passes.mono`**: a tree with the same directories and links is passed in the same way;
* `PassesFrom`: the same from a working directory that may have been removed.
-/

namespace Replica.Disk

variable {d d' : Disk} {missing : Bool} {links left : Nat} {here dir p : Place}
  {step : String} {steps rest : List String}

/-! ## Single steps -/

/-- A step to an entry by its name. -/
structure IsName (step : String) : Prop where
  ne_dot : step ≠ "."
  ne_up : step ≠ ".."
  short : isTooLong step = false

@[simp] theorem walk_nil : d.walk missing links here [] = .ok here := by cases links <;> rfl

@[simp] theorem walk_dot :
    d.walk missing links here ("." :: rest) = d.walk missing links here rest := by
  cases links <;> simp [walk, walkWith]

@[simp] theorem walk_up :
    d.walk missing links here (".." :: rest) = d.walk missing links here.dropLast rest := by
  cases links <;> simp [walk, walkWith]

theorem walk_tooLong (h : step ≠ ".") (h' : step ≠ "..") (hl : isTooLong step = true) :
    d.walk missing links here (step :: rest) = .error .nameTooLong := by
  cases links <;> simp [walk, walkWith, h, h', hl]

/-- **A step to a name.** -/
theorem walk_name (h : IsName step) :
    d.walk missing links here (step :: rest) =
      match d.get? (here ++ [step]) with
      | none => if missing && rest.isEmpty then .ok (here ++ [step]) else .error .noEntry
      | some .directory => d.walk missing links (here ++ [step]) rest
      | some (.file _) => if rest.isEmpty then .ok (here ++ [step]) else .error .notDirectory
      | some (.link target) =>
        match links with
        | 0 => .error .tooManyLinks
        | left + 1 => d.walk missing left (start here target) (Path.steps target ++ rest) := by
  cases links <;> simp only [walk, walkWith, if_neg h.ne_dot, if_neg h.ne_up, h.short] <;>
    rcases d.get? (here ++ [step]) with _ | _ | _ | _ <;> rfl

theorem step_cases (step : String) :
    step = "." ∨ step = ".." ∨ (step ≠ "." ∧ step ≠ ".." ∧ isTooLong step = true) ∨
      IsName step := by
  by_cases h : step = "."
  · exact .inl h
  · by_cases h' : step = ".."
    · exact .inr (.inl h')
    · cases hl : isTooLong step with
      | true => exact .inr (.inr (.inl ⟨h, h', rfl⟩))
      | false => exact .inr (.inr (.inr ⟨h, h', hl⟩))

/-! ## Steps through directories and links -/

/-- **Steps that lead from one directory to another.** Of the symbolic links that may be followed
some are left. -/
inductive Passes (d : Disk) : Nat → Place → List String → Nat → Place → Prop
  | nil {links : Nat} {here : Place} : Passes d links here [] links here
  | dot {links left : Nat} {here dir : Place} {rest : List String} :
      Passes d links here rest left dir → Passes d links here ("." :: rest) left dir
  | up {links left : Nat} {here dir : Place} {rest : List String} :
      Passes d links here.dropLast rest left dir → Passes d links here (".." :: rest) left dir
  | enter {links left : Nat} {here dir : Place} {step : String} {rest : List String} :
      IsName step → d.get? (here ++ [step]) = some .directory →
      Passes d links (here ++ [step]) rest left dir → Passes d links here (step :: rest) left dir
  | follow {links left : Nat} {here dir : Place} {step target : String} {rest : List String} :
      IsName step → d.get? (here ++ [step]) = some (.link target) →
      Passes d links (start here target) (Path.steps target ++ rest) left dir →
      Passes d (links + 1) here (step :: rest) left dir

/-- **A walk goes on where its first steps pass to.** -/
theorem Passes.walk_append (h : d.Passes links here steps left dir) (rest : List String) :
    d.walk missing links here (steps ++ rest) = d.walk missing left dir rest := by
  induction h with
  | nil => rfl
  | dot _ ih => rw [List.cons_append, walk_dot, ih]
  | up _ ih => rw [List.cons_append, walk_up, ih]
  | enter hs hd _ ih => simp only [List.cons_append, walk_name hs, hd, ih]
  | follow hs hd _ ih =>
    simp only [List.cons_append, walk_name hs, hd]
    rw [← List.append_assoc, ih]

theorem Passes.walk_eq (h : d.Passes links here steps left dir) :
    d.walk missing links here steps = .ok dir := by
  rw [← List.append_nil steps, h.walk_append, walk_nil]

/-- **A walk with a further step to `.`** goes from directory to directory. -/
theorem passes_of_walk {links : Nat} {here dir : Place} {steps : List String}
    (h : d.walk missing links here (steps ++ ["."]) = .ok dir) :
    ∃ left, d.Passes links here steps left dir := by
  cases steps with
  | nil =>
    rw [List.nil_append, walk_dot, walk_nil] at h
    obtain rfl := Except.ok.inj h
    exact ⟨links, .nil⟩
  | cons step rest =>
    rw [List.cons_append] at h
    rcases step_cases step with rfl | rfl | ⟨hs, hs', hl⟩ | hs
    · rw [walk_dot] at h
      exact (passes_of_walk h).imp fun _ => .dot
    · rw [walk_up] at h
      exact (passes_of_walk h).imp fun _ => .up
    · rw [walk_tooLong hs hs' hl] at h
      cases h
    · rw [walk_name hs] at h
      split at h
      · simp at h
      · rename_i hd
        exact (passes_of_walk h).imp fun _ => .enter hs hd
      · simp at h
      · rename_i target hd
        cases links with
        | zero => cases h
        | succ links =>
          rw [← List.append_assoc] at h
          exact (passes_of_walk h).imp fun _ => .follow hs hd
-- a link uses up one of those that may be followed, any other step itself
termination_by (links, steps.length)

/-- **A walk to something that is there** ends where its steps pass to, or at a file. -/
theorem passes_or_file {links : Nat} {here p : Place} {steps : List String}
    (h : d.walk false links here steps = .ok p) :
    (∃ left, d.Passes links here steps left p) ∨ ∃ id, d.get? p = some (.file id) := by
  cases steps with
  | nil =>
    rw [walk_nil] at h
    obtain rfl := Except.ok.inj h
    exact .inl ⟨links, .nil⟩
  | cons step rest =>
    rcases step_cases step with rfl | rfl | ⟨hs, hs', hl⟩ | hs
    · rw [walk_dot] at h
      exact (passes_or_file h).imp_left fun ⟨left, hp⟩ => ⟨left, .dot hp⟩
    · rw [walk_up] at h
      exact (passes_or_file h).imp_left fun ⟨left, hp⟩ => ⟨left, .up hp⟩
    · rw [walk_tooLong hs hs' hl] at h
      cases h
    · rw [walk_name hs] at h
      split at h
      · simp at h
      · rename_i hd
        exact (passes_or_file h).imp_left fun ⟨left, hp⟩ => ⟨left, .enter hs hd hp⟩
      · rename_i id hd
        split at h
        · obtain rfl := Except.ok.inj h
          exact .inr ⟨id, hd⟩
        · cases h
      · rename_i target hd
        cases links with
        | zero => cases h
        | succ links =>
          exact (passes_or_file h).imp_left fun ⟨left, hp⟩ => ⟨left, .follow hs hd hp⟩
termination_by (links, steps.length)

theorem Passes.append {mid : Nat} {dir' : Place} (h : d.Passes links here steps mid dir)
    (h' : d.Passes mid dir rest left dir') : d.Passes links here (steps ++ rest) left dir' := by
  induction h with
  | nil => exact h'
  | dot _ ih => exact .dot (ih h')
  | up _ ih => exact .up (ih h')
  | enter hs hd _ ih => exact .enter hs hd (ih h')
  | follow hs hd _ ih => exact .follow hs hd (List.append_assoc _ _ _ ▸ ih h')

theorem passes_append_iff {dir' : Place} :
    d.Passes links here (steps ++ rest) left dir' ↔
      ∃ mid dir, d.Passes links here steps mid dir ∧ d.Passes mid dir rest left dir' := by
  refine ⟨fun h => ?_, fun ⟨_, _, h, h'⟩ => h.append h'⟩
  generalize hall : steps ++ rest = all at h
  induction h generalizing steps with
  | nil =>
    obtain ⟨rfl, rfl⟩ := List.append_eq_nil_iff.1 hall
    exact ⟨_, _, .nil, .nil⟩
  | dot h ih =>
    rcases List.append_eq_cons_iff.1 hall with ⟨rfl, rfl⟩ | ⟨steps, rfl, rfl⟩
    · exact ⟨_, _, .nil, .dot h⟩
    · obtain ⟨_, _, h, h'⟩ := ih rfl
      exact ⟨_, _, .dot h, h'⟩
  | up h ih =>
    rcases List.append_eq_cons_iff.1 hall with ⟨rfl, rfl⟩ | ⟨steps, rfl, rfl⟩
    · exact ⟨_, _, .nil, .up h⟩
    · obtain ⟨_, _, h, h'⟩ := ih rfl
      exact ⟨_, _, .up h, h'⟩
  | enter hs hd h ih =>
    rcases List.append_eq_cons_iff.1 hall with ⟨rfl, rfl⟩ | ⟨steps, rfl, rfl⟩
    · exact ⟨_, _, .nil, .enter hs hd h⟩
    · obtain ⟨_, _, h, h'⟩ := ih rfl
      exact ⟨_, _, .enter hs hd h, h'⟩
  | follow hs hd h ih =>
    rcases List.append_eq_cons_iff.1 hall with ⟨rfl, rfl⟩ | ⟨steps, rfl, rfl⟩
    · exact ⟨_, _, .nil, .follow hs hd h⟩
    · obtain ⟨_, _, h, h'⟩ := ih (List.append_assoc _ _ _)
      exact ⟨_, _, .follow hs hd h, h'⟩

theorem passes_dot_iff :
    d.Passes links here ("." :: rest) left dir ↔ d.Passes links here rest left dir := by
  refine ⟨fun h => ?_, .dot⟩
  generalize hall : "." :: rest = all at h
  cases h with
  | nil => cases hall
  | dot h => exact (List.cons.inj hall).2 ▸ h
  | up h => exact absurd (List.cons.inj hall).1 (by decide)
  | enter hs _ _ => exact absurd (List.cons.inj hall).1.symm hs.ne_dot
  | follow hs _ _ => exact absurd (List.cons.inj hall).1.symm hs.ne_dot

theorem passes_dots_iff (h : Path.Dots steps) :
    d.Passes links here steps left dir ↔ left = links ∧ dir = here := by
  induction steps with
  | nil => exact ⟨fun h => by cases h; exact ⟨rfl, rfl⟩, fun ⟨e, e'⟩ => e ▸ e' ▸ .nil⟩
  | cons step rest ih =>
    obtain rfl := h step List.mem_cons_self
    rw [passes_dot_iff, ih fun s hs => h s (List.mem_cons_of_mem _ hs)]

/-! ## Trees with the same ways -/

/-- Every directory and every symbolic link of a tree is in another one. -/
def KeepsWays (d d' : Disk) : Prop :=
  ∀ p e, (∀ id, e ≠ .file id) → d.get? p = some e → d'.get? p = some e

/-- Every entry of a tree is in another one. -/
def KeepsEntries (d d' : Disk) : Prop := ∀ p e, d.get? p = some e → d'.get? p = some e

theorem KeepsEntries.keepsWays (h : d.KeepsEntries d') : d.KeepsWays d' := fun p e _ => h p e

theorem keepsEntries_of_new (hn : d.get? p = none) (h : ∀ q, q ≠ p → d'.get? q = d.get? q) :
    d.KeepsEntries d' := by
  intro q e hq
  have hne : q ≠ p := fun hqp => by rw [hqp, hn] at hq; cases hq
  rw [h q hne, hq]

/-- **Steps pass in a tree as in one with fewer ways.** -/
theorem Passes.mono (h : d.Passes links here steps left dir) (hk : d.KeepsWays d') :
    d'.Passes links here steps left dir := by
  induction h with
  | nil => exact .nil
  | dot _ ih => exact .dot ih
  | up _ ih => exact .up ih
  | enter hs hd _ ih => exact .enter hs (hk _ _ (fun _ => nofun) hd) ih
  | follow hs hd _ ih => exact .follow hs (hk _ _ (fun _ => nofun) hd) ih

/-! ## From a working directory that may have been removed -/

/-- The same from a directory of which the last `lost` names are those of removed ones. -/
inductive PassesFrom (d : Disk) : Nat → Place → List String → Nat → Spot → Prop
  | tree {left : Nat} {here dir : Place} {steps : List String} :
      Passes d maxLinks here steps left dir → PassesFrom d 0 here steps left (.place dir)
  | stay {lost : Nat} {here : Place} : PassesFrom d (lost + 1) here [] maxLinks (.removed here)
  | dot {lost left : Nat} {here : Place} {rest : List String} {spot : Spot} :
      PassesFrom d (lost + 1) here rest left spot →
      PassesFrom d (lost + 1) here ("." :: rest) left spot
  | up {lost left : Nat} {here : Place} {rest : List String} {spot : Spot} :
      PassesFrom d lost here.dropLast rest left spot →
      PassesFrom d (lost + 1) here (".." :: rest) left spot

theorem walkFrom_dot (lost : Nat) :
    d.walkFrom missing (lost + 1) here ("." :: rest) = d.walkFrom missing (lost + 1) here rest := by
  rw [walkFrom, if_pos rfl]

theorem walkFrom_up (lost : Nat) :
    d.walkFrom missing (lost + 1) here (".." :: rest) =
      d.walkFrom missing lost here.dropLast rest := by
  rw [walkFrom, if_neg (by decide), if_pos rfl]

variable {lost : Nat} {spot : Spot}

theorem PassesFrom.walkFrom_append (h : d.PassesFrom lost here steps left (.place dir))
    (rest : List String) :
    d.walkFrom missing lost here (steps ++ rest) = (d.walk missing left dir rest).map .place := by
  generalize hs : Spot.place dir = spot at h
  induction h with
  | tree h =>
    obtain rfl := Spot.place.inj hs
    rw [walkFrom_zero, h.walk_append]
  | stay => cases hs
  | dot _ ih => rw [List.cons_append, walkFrom_dot, ih hs]
  | up _ ih => rw [List.cons_append, walkFrom_up, ih hs]

theorem PassesFrom.append {mid : Nat} {dir' : Place}
    (h : d.PassesFrom lost here steps mid (.place dir)) (h' : d.Passes mid dir rest left dir') :
    d.PassesFrom lost here (steps ++ rest) left (.place dir') := by
  generalize hs : Spot.place dir = spot at h
  induction h with
  | tree h =>
    obtain rfl := Spot.place.inj hs
    exact .tree (h.append h')
  | stay => cases hs
  | dot _ ih => exact .dot (ih h' hs)
  | up _ ih => exact .up (ih h' hs)

theorem PassesFrom.walkFrom_eq (h : d.PassesFrom lost here steps left spot) :
    d.walkFrom missing lost here steps = .ok spot := by
  induction h with
  | tree h => rw [walkFrom_zero, h.walk_eq]; rfl
  | stay => rfl
  | dot _ ih => rw [walkFrom_dot, ih]
  | up _ ih => rw [walkFrom_up, ih]

theorem passesFrom_of_walkFrom (h : d.walkFrom missing lost here (steps ++ ["."]) = .ok spot) :
    ∃ left, d.PassesFrom lost here steps left spot := by
  induction steps generalizing lost here with
  | nil =>
    cases lost with
    | zero =>
      rw [List.nil_append, walkFrom_zero, walk_dot, walk_nil] at h
      obtain rfl := Except.ok.inj h
      exact ⟨_, .tree .nil⟩
    | succ lost =>
      rw [List.nil_append, walkFrom_dot] at h
      obtain rfl := Except.ok.inj h
      exact ⟨_, .stay⟩
  | cons step rest ih =>
    cases lost with
    | zero =>
      rw [walkFrom_zero] at h
      cases hw : d.walk missing maxLinks here (step :: rest ++ ["."]) with
      | error e =>
        rw [hw] at h
        cases h
      | ok dir =>
        rw [hw] at h
        obtain rfl := Except.ok.inj h
        exact (passes_of_walk hw).imp fun _ => .tree
    | succ lost =>
      by_cases hs : step = "."
      · subst hs
        rw [List.cons_append, walkFrom_dot] at h
        exact (ih h).imp fun _ => .dot
      · by_cases hs' : step = ".."
        · subst hs'
          rw [List.cons_append, walkFrom_up] at h
          exact (ih h).imp fun _ => .up
        · rw [List.cons_append, walkFrom_name hs hs'] at h
          cases h

theorem passesFrom_or_file (h : d.walkFrom false lost here steps = .ok spot) :
    (∃ left, d.PassesFrom lost here steps left spot) ∨
      ∃ p id, spot = .place p ∧ d.get? p = some (.file id) := by
  induction steps generalizing lost here with
  | nil =>
    cases lost with
    | zero =>
      rw [walkFrom_zero, walk_nil] at h
      obtain rfl := Except.ok.inj h
      exact .inl ⟨_, .tree .nil⟩
    | succ lost =>
      obtain rfl := Except.ok.inj h
      exact .inl ⟨_, .stay⟩
  | cons step rest ih =>
    cases lost with
    | zero =>
      rw [walkFrom_zero] at h
      cases hw : d.walk false maxLinks here (step :: rest) with
      | error e =>
        rw [hw] at h
        cases h
      | ok p =>
        rw [hw] at h
        obtain rfl := Except.ok.inj h
        exact (passes_or_file hw).imp (fun ⟨left, hp⟩ => ⟨left, .tree hp⟩)
          fun ⟨id, hf⟩ => ⟨p, id, rfl, hf⟩
    | succ lost =>
      by_cases hs : step = "."
      · subst hs
        rw [walkFrom_dot] at h
        exact (ih h).imp_left fun ⟨left, hp⟩ => ⟨left, .dot hp⟩
      · by_cases hs' : step = ".."
        · subst hs'
          rw [walkFrom_up] at h
          exact (ih h).imp_left fun ⟨left, hp⟩ => ⟨left, .up hp⟩
        · rw [walkFrom_name hs hs'] at h
          cases h

end Replica.Disk
