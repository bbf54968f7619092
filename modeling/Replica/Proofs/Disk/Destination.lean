import Mathlib.Data.List.Basic
import Replica.Proofs.Disk.Directories
import Replica.Proofs.Disk.Staged

/-!
# What is made for a destination

* `NamesDir`, **`namesDir_of_ensureDir`**: a directory that is made is named by the path or by one
  above it;
* `IsAbove`, **`isAbove_of_ensureParentDir`**: the directories that are made are above the path;
* **`destination?`**: the place of the entry that a path names, once they are made;
* `get?_destination`: without a part `..` in the path, they are made elsewhere;
* `destination?_of_get?`: once they are there, the path names the entry at the same place;
* `ensureParentDir_drawing`, `destination?_drawing`: the suffixes of temporary files do not matter.
-/

namespace Replica.Disk

variable {d d' : Disk} {p : Place} {path par : String}

/-! ## Directories above a path -/

/-- **A directory above a path**: a path above it leads there. -/
def IsAbove (d : Disk) (path : String) (p : Place) : Prop :=
  ∃ par, Path.parent? path = some par ∧ ∃ a ∈ Path.ancestors par, d.resolve a = .ok (.place p)

/-- **A path names the directory** at a place, and leads there. -/
structure NamesDir (d : Disk) (path : String) (p : Place) : Prop where
  located : ∃ dir name slash, d.locate path = .ok (.entry dir name slash) ∧ p = dir ++ [name]
  leads : ∃ left, d.Leads path (Path.parts path) left (.place p)

theorem NamesDir.mono (h : d.NamesDir path p) (hk : d.KeepsWays d') (hb : d.SameBase d') :
    d'.NamesDir path p := by
  obtain ⟨dir, name, slash, hloc, hp⟩ := h.located
  obtain ⟨left, hl⟩ := h.leads
  exact ⟨⟨dir, name, slash, locate_mono hk hb hloc, hp⟩, left, hl.mono hk hb⟩

theorem NamesDir.resolve_eq (h : d.NamesDir path p) : d.resolve path = .ok (.place p) := by
  obtain ⟨dir, name, slash, hloc, -⟩ := h.located
  obtain ⟨left, hl⟩ := h.leads
  exact hl.resolve_eq (locate_eq_entry_iff.1 hloc).1

theorem namesDir_of_makeDirOrFind (hd : d.WellFormed) (hn : d.get? p = none)
    (hp : (d.makeDirOrFind path).1.get? p ≠ none) : (d.makeDirOrFind path).1.NamesDir path p := by
  have hg := (hd.makeDirOrFind path).2
  rcases makeDirOrFind_cases d path with h | ⟨h, -⟩
  · obtain ⟨dir, name, slash, hloc, -, hget, hleads⟩ := leads_of_makeDir h
    have hp' : p = dir ++ [name] := by
      by_contra hne
      rw [hget, if_neg hne] at hp
      exact hp hn
    exact ⟨⟨dir, name, slash, locate_mono hg.keepsWays hg.base hloc, hp'⟩, hp' ▸ hleads⟩
  · rw [h] at hp
    exact absurd hn hp

theorem namesDir_of_makeDirs (hd : d.WellFormed) {paths : List String} (hn : d.get? p = none)
    (hp : (d.makeDirs paths).1.get? p ≠ none) :
    ∃ a ∈ paths, (d.makeDirs paths).1.NamesDir a p := by
  induction paths with
  | nil => exact absurd hn hp
  | cons path above ih =>
    rcases makeDirs_cons d path above with ⟨h, -⟩ | h | ⟨-, ⟨-, h⟩ | ⟨e, -, h⟩⟩
    · rw [h] at hp
      exact absurd hn hp
    · rw [h] at hp ⊢
      exact ⟨path, List.mem_cons_self, namesDir_of_makeDirOrFind hd hn hp⟩
    · rw [h] at hp ⊢
      have hd' := (hd.makeDirs above).1
      -- made for this path, or before it for one above it
      by_cases hbefore : (d.makeDirs above).1.get? p = none
      · exact ⟨path, List.mem_cons_self, namesDir_of_makeDirOrFind hd' hbefore hp⟩
      · obtain ⟨a, ha, hnames⟩ := ih hbefore
        have hg := (hd'.makeDirOrFind path).2
        exact ⟨a, List.mem_cons_of_mem _ ha, hnames.mono hg.keepsWays hg.base⟩
    · rw [h] at hp ⊢
      obtain ⟨a, ha, hnames⟩ := ih hp
      exact ⟨a, List.mem_cons_of_mem _ ha, hnames⟩

/-- **Only the directories that a path and those above it name** are made for it. -/
theorem namesDir_of_ensureDir (hd : d.WellFormed) (hn : d.get? p = none)
    (hp : (d.ensureDir path).1.get? p ≠ none) :
    ∃ a ∈ Path.ancestors path, (d.ensureDir path).1.NamesDir a p := by
  cases hdir : d.isDir path with
  | true =>
    rw [ensureDir_of_isDir hdir] at hp
    exact absurd hn hp
  | false =>
    rw [ensureDir_of_not_isDir hdir] at hp ⊢
    exact namesDir_of_makeDirs hd hn hp

/-- **Only directories above a path** are made for it. -/
theorem isAbove_of_ensureParentDir (hd : d.WellFormed) (hn : d.get? p = none)
    (hp : (d.ensureParentDir path).1.get? p ≠ none) :
    (d.ensureParentDir path).1.IsAbove path p := by
  rcases parent?_cases path with hnone | ⟨par, hpar, hne⟩
  · rw [ensureParentDir_of_no_parent hnone] at hp
    exact absurd hn hp
  · rw [ensureParentDir_of_parent? hpar hne] at hp ⊢
    obtain ⟨a, ha, hnames⟩ := namesDir_of_ensureDir hd hn hp
    exact ⟨par, hpar, a, ha, hnames.resolve_eq⟩

/-! ## The entry that a path names -/

/-- **The place of the entry that a path names**, once the directories that it lacks are made. -/
def destination? (d : Disk) (path : String) : Option Place :=
  match d.ensureParentDir path with
  | (d₁, .ok ()) =>
    match d₁.locate path with
    | .ok (.entry dir name _) => some (dir ++ [name])
    | _ => none
  | _ => none

theorem destination?_eq_some_iff :
    d.destination? path = some p ↔
      (d.ensureParentDir path).2 = .ok () ∧ ∃ dir name slash,
        (d.ensureParentDir path).1.locate path = .ok (.entry dir name slash) ∧
          p = dir ++ [name] := by
  rw [destination?]
  rcases d.ensureParentDir path with ⟨d₁, e | ⟨⟨⟩⟩⟩
  · simp
  · rcases hloc : d₁.locate path with e | (⟨dir, name, slash⟩ | dir | dir)
    all_goals simp [hloc, eq_comm]

/-- **Without a part `..`** the directories that a path lacks are made elsewhere than where its
entry is. -/
theorem get?_destination (hd : d.WellFormed) (hup : ".." ∉ Path.parts path)
    (h : d.destination? path = some p) : (d.ensureParentDir path).1.get? p = d.get? p := by
  obtain ⟨hok, dir, name, slash, hloc, rfl⟩ := destination?_eq_some_iff.1 h
  rcases madeUpTo_ensureParentDir hd hup hok with hsame | ⟨par, hpar, -, q, hmade⟩
  · rw [hsame]
  · obtain ⟨left, hl⟩ := leads_parent? hpar hloc
    obtain ⟨left', hl'⟩ := hmade.leads
    have hnone := hmade.get?_below hd name
    rw [← hl.unique hl'] at hnone
    rw [hnone, (hd.ensureParentDir path).2.get?_eq_none hnone]

/-- **In a tree with all that was made for a path**, nothing more is made for it. -/
theorem destination?_of_get? (hd : d.WellFormed) (hd' : d'.WellFormed)
    (hb : (d.ensureParentDir path).1.SameBase d')
    (hget : ∀ q, d'.get? q = (d.ensureParentDir path).1.get? q)
    (h : d.destination? path = some p) :
    d'.destination? path = some p ∧ (d'.ensureParentDir path).1.get? p = d'.get? p := by
  obtain ⟨hok, dir, name, slash, hloc, rfl⟩ := destination?_eq_some_iff.1 h
  have hk : (d.ensureParentDir path).1.KeepsWays d' := fun q e _ hq => (hget q).trans hq
  have hensure : d'.ensureParentDir path = (d', .ok ()) := by
    rcases ensureParentDir_cases d' path with ⟨h, -⟩ | ⟨par, hpar, hne, hnot, -⟩
    · exact h
    · have hdir := (ensureParentDir_eq_ok_iff hd path).1 hok par hpar hne
      rw [(hd.ensureParentDir path).1.isDir_mono hd' hk hb hdir] at hnot
      cases hnot
  have hloc' : (d'.ensureParentDir path).1.locate path = .ok (.entry dir name slash) := by
    rw [hensure]
    exact locate_mono hk hb hloc
  refine ⟨destination?_eq_some_iff.2 ⟨by rw [hensure], dir, name, slash, hloc', rfl⟩, ?_⟩
  rw [hensure]

/-! ## Other suffixes -/

section Drawing

variable {draw : Nat → String}

theorem makeDir_drawing : (d.drawing draw).makeDir path = (d.makeDir path).map (·.drawing draw) := by
  rw [makeDir, makeDir, locate_drawing]
  rcases d.locate path with e | (⟨dir, name, slash⟩ | dir | dir)
  case ok.entry =>
    have hget : (d.drawing draw).get? (dir ++ [name]) = d.get? (dir ++ [name]) := rfl
    simp only [addEntry, hget]
    split
    · rfl
    · split <;> rfl
  all_goals rfl

theorem makeDirOrFind_drawing :
    (d.drawing draw).makeDirOrFind path =
      ((d.makeDirOrFind path).1.drawing draw, (d.makeDirOrFind path).2) := by
  rw [makeDirOrFind, makeDirOrFind, makeDir_drawing, isDir_drawing]
  cases d.makeDir path with
  | ok d' => rfl
  | error e => cases d.isDir path <;> rfl

theorem makeDirs_drawing (paths : List String) :
    (d.drawing draw).makeDirs paths =
      ((d.makeDirs paths).1.drawing draw, (d.makeDirs paths).2) := by
  induction paths with
  | nil => rfl
  | cons path above ih =>
    rw [makeDirs, makeDirs, makeDir_drawing, ih]
    cases path.isEmpty with
    | true => rfl
    | false =>
      simp only [Bool.false_eq_true, if_false]
      rcases d.makeDir path with e | d'
      · cases e
        case noEntry =>
          rcases d.makeDirs above with ⟨d', e | u⟩
          · rfl
          · exact makeDirOrFind_drawing
        all_goals exact makeDirOrFind_drawing
      · exact makeDirOrFind_drawing

/-- **The directories for a path** are made whatever suffixes are drawn. -/
theorem ensureParentDir_drawing :
    (d.drawing draw).ensureParentDir path =
      ((d.ensureParentDir path).1.drawing draw, (d.ensureParentDir path).2) := by
  rcases parent?_cases path with hnone | ⟨par, hpar, hne⟩
  · rw [ensureParentDir_of_no_parent hnone, ensureParentDir_of_no_parent hnone]
  · rw [ensureParentDir_of_parent? hpar hne, ensureParentDir_of_parent? hpar hne]
    cases hdir : d.isDir par with
    | true => rw [ensureDir_of_isDir hdir, ensureDir_of_isDir (isDir_drawing.trans hdir)]
    | false =>
      rw [ensureDir_of_not_isDir hdir, ensureDir_of_not_isDir (isDir_drawing.trans hdir),
        makeDirs_drawing]

theorem destination?_drawing : (d.drawing draw).destination? path = d.destination? path := by
  rw [destination?, destination?, ensureParentDir_drawing]
  rcases d.ensureParentDir path with ⟨d₁, e | u⟩
  · rfl
  · simp only [locate_drawing]

end Drawing

end Replica.Disk
