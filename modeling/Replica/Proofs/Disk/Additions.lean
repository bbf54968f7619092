import Mathlib.Data.List.Basic
import Replica.Proofs.Disk.Entries

/-!
# What making sure of a directory adds

A directory is made after those above it that are missing, as each of them leads somewhere only once
the one before it is there. The work may end half-way, at a file, at a link that leads nowhere, or at
a name that is too long. Whatever comes of it, nothing but directories is added.

* **`AddsOnly`**: directories are added where some paths name them, and nothing else changes;
* `addsOnly_ensureDir`, `addsOnly_ensureParentDir`: that is all that is done;
* `ensureDir_again`: a second time nothing is done;
* **`directories_only_added`**.
-/

namespace Replica

namespace Path

/-- The paths above a path. -/
def above (path : String) : List String := ((parent? path).map ancestors).getD []

theorem parent?_of_notMem {path par : String} (h : '/' ∉ path.toList)
    (hpar : parent? path = some par) : par = "" := by
  rw [parent?, split_of_notMem h] at hpar
  obtain ⟨text, htext, rfl⟩ := Option.map_eq_some_iff.1 hpar
  cases hempty : path.toList.isEmpty with
  | true => simp [parentOf, dropIdle, hempty] at htext
  | false =>
    have hnil : text = [] := by simpa [parentOf, dropIdle, hempty] using htext.symm
    rw [hnil]

end Path

namespace Disk

variable {d d' : Disk} {p : Place} {path : String} {paths : List String}

/-- **Only directories are added**, each as the entry that one of these paths names, and where that
path leads. What there was is kept, and so is what the files hold. -/
structure AddsOnly (d d' : Disk) (paths : List String) : Prop where
  base : d.SameBase d'
  files : d'.files = d.files
  kept : ∀ p e, d.get? p = some e → d'.get? p = some e
  added : ∀ p e, d.get? p = none → d'.get? p = some e →
    e = .directory ∧ ∃ a ∈ paths, d'.named? a = some p ∧ d'.resolve a = .ok (.place p)

theorem AddsOnly.refl (d : Disk) (paths : List String) : d.AddsOnly d paths where
  base := .refl d
  files := rfl
  kept _ _ h := h
  added p e hn h := by
    rw [hn] at h
    cases h

theorem Grows.addsOnly (hg : d.Grows d')
    (h : ∀ p, d.get? p = none → d'.get? p ≠ none → ∃ a ∈ paths, d'.NamesDir a p) :
    d.AddsOnly d' paths where
  base := hg.base
  files := hg.files
  kept _ _ := hg.get?_eq
  added p e hn hp := by
    have hsome : d'.get? p ≠ none := by simp [hp]
    constructor
    · rcases hg.get?_cases p with hq | ⟨-, hq⟩
      · exact absurd (hq.trans hn) hsome
      · exact Option.some.inj (hp.symm.trans hq)
    · obtain ⟨a, ha, hnames⟩ := h p hn hsome
      exact ⟨a, ha, named?_eq_some_iff.2 hnames.located, hnames.resolve_eq⟩

theorem addsOnly_ensureDir (hd : d.WellFormed) (path : String) :
    d.AddsOnly (d.ensureDir path).1 (Path.ancestors path) :=
  (hd.ensureDir path).2.addsOnly fun _ => namesDir_of_ensureDir hd

theorem addsOnly_ensureParentDir (hd : d.WellFormed) (path : String) :
    d.AddsOnly (d.ensureParentDir path).1 (Path.above path) := by
  rcases parent?_cases path with hnone | ⟨par, hpar, hne⟩
  · rw [ensureParentDir_of_no_parent hnone]
    exact .refl d _
  · rw [ensureParentDir_of_parent? hpar hne, Path.above, hpar]
    exact addsOnly_ensureDir hd par

/-- **A second time** there is nothing to make. -/
theorem ensureDir_again (hd : d.WellFormed) (hne : path ≠ "")
    (h : (d.ensureDir path).2 = .ok ()) :
    (d.ensureDir path).1.ensureDir path = ((d.ensureDir path).1, .ok ()) :=
  ensureDir_of_isDir ((ensureDir_eq_ok_iff hd hne).1 h)

/-- **Directories are only added.** Making sure of a directory leaves a tree a tree, keeps every
entry and every file as it was, and adds nothing but directories, each of them what the path or one
of its ancestors names and leads to, whether it succeeds or fails half-way. It succeeds if and only
if the path, which is not empty, leads to a directory afterwards, and then a second time succeeds
and changes nothing. The same holds for the directory that is to hold a path, with the paths above
that one; for a path without a slash nothing is done. -/
theorem directories_only_added (hd : d.WellFormed) (path : String) :
    ((d.ensureDir path).1.WellFormed ∧ d.AddsOnly (d.ensureDir path).1 (Path.ancestors path)) ∧
    (path ≠ "" →
      ((d.ensureDir path).2 = .ok () ↔ (d.ensureDir path).1.isDir path = true) ∧
      ((d.ensureDir path).2 = .ok () →
        (d.ensureDir path).1.ensureDir path = ((d.ensureDir path).1, .ok ()))) ∧
    ((d.ensureParentDir path).1.WellFormed ∧
      d.AddsOnly (d.ensureParentDir path).1 (Path.above path)) ∧
    ('/' ∉ path.toList → d.ensureParentDir path = (d, .ok ())) ∧
    ((d.ensureParentDir path).2 = .ok () ↔
      ∀ par, Path.parent? path = some par → par ≠ "" →
        (d.ensureParentDir path).1.isDir par = true) := by
  refine ⟨⟨(hd.ensureDir path).1, addsOnly_ensureDir hd path⟩, fun hne => ?_,
    ⟨(hd.ensureParentDir path).1, addsOnly_ensureParentDir hd path⟩, fun hslash => ?_,
    ensureParentDir_eq_ok_iff hd path⟩
  · exact ⟨ensureDir_eq_ok_iff hd hne, ensureDir_again hd hne⟩
  · exact ensureParentDir_of_no_parent fun _ => Path.parent?_of_notMem hslash

/-- A tree with a symbolic link that leads nowhere. -/
def danglingTree : Disk := empty.put ["link"] (.link "nowhere")

/-- A path through a directory that is missing, and back, to that link. -/
def throughLink : String := "/new/../link/blobs"

/-- It fails at the link, after the directory was made. -/
theorem directories_only_added_halfway :
    danglingTree.WellFormed ∧ throughLink ≠ "" ∧
      (danglingTree.ensureDir throughLink).1.isDir throughLink = false ∧
      (danglingTree.ensureDir throughLink).2 ≠ .ok () ∧
      (danglingTree.ensureDir throughLink).1.get? ["link"] = some (.link "nowhere") ∧
      ∃ a ∈ Path.ancestors throughLink,
        (danglingTree.ensureDir throughLink).1.named? a = some ["new"] := by
  have hd : danglingTree.WellFormed :=
    wellFormed_empty.put_root (by decide) (by decide) fun _ => nofun
  have hne : throughLink ≠ "" := by decide
  have hnot : (danglingTree.ensureDir throughLink).1.isDir throughLink = false := by decide +kernel
  have hmade : (danglingTree.ensureDir throughLink).1.get? ["new"] = some .directory := by
    decide +kernel
  obtain ⟨⟨-, hadds⟩, hfails, -⟩ := directories_only_added hd throughLink
  obtain ⟨-, a, ha, hnames, -⟩ := hadds.added ["new"] .directory (by decide) hmade
  refine ⟨hd, hne, hnot, fun hok => ?_, hadds.kept ["link"] _ (by decide), a, ha, hnames⟩
  rw [((hfails hne).1).1 hok] at hnot
  cases hnot

end Disk

end Replica
