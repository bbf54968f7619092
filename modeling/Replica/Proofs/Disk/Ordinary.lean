import Mathlib.Data.List.Basic
import Replica.Proofs.Disk.Covered
import Replica.Proofs.Disk.Destination
import Replica.Proofs.Disk.Placed

/-!
# Destinations with a directory and a name

* `Path.holder`: the path of the directory that is to hold the last part of a path;
* **`Ordinary`**: that directory is there, and the last part is a name;
* `Ordinary.leads`, `Ordinary.locate_eq`: the path names the entry of that name in it;
* `Ordinary.ensureParentDir_eq`: nothing has to be made for it;
* **`ensureParentDir_eq_error`**: what happens once the directory is gone;
* `misnamed?`, **`Staged.replaceFile_eq`**: why a file does not take the place of the destination.
-/

namespace Replica

/-- The path of the directory that is to hold the last part of a path. -/
def Path.holder (path : String) : String :=
  match Path.parent? path with
  | some par => if par = "" then "." else par
  | none => "."

/-- The place of the entry of a name in a directory. In a removed one there is none. -/
def Spot.child? (spot : Spot) (name : String) : Option Place :=
  match spot with
  | .place dir => some (dir ++ [name])
  | .removed _ => none

theorem Spot.child?_inj {spot spot' : Spot} {name name' : String} {p : Place}
    (h : spot.child? name = some p) (h' : spot'.child? name' = some p) :
    spot = spot' ∧ name = name' := by
  cases spot with
  | removed q => cases h
  | place dir =>
    cases spot' with
    | removed q => cases h'
    | place dir' =>
      obtain ⟨rfl, hname⟩ := List.append_inj' (Option.some.inj (h.trans h'.symm)) rfl
      exact ⟨rfl, (List.cons.inj hname).1⟩

namespace Disk

variable {d d' : Disk} {dir : Place} {spot : Spot} {path name : String} {temp : TempFile}
  {body : FileBody}

/-- **A destination whose directory is there** and which ends in a name, with or without a slash
behind it. -/
structure Ordinary (d : Disk) (path : String) (spot : Spot) (name : String) : Prop where
  holder_eq : d.resolve (Path.holder path) = .ok spot
  directory : d.entryAt? spot = some .directory
  last_eq : (Path.parts path).getLast? = some name
  ne_dot : name ≠ "."
  ne_up : name ≠ ".."

/-! ## The directory -/

theorem WellFormed.isDir_dot (hd : d.WellFormed) : d.isDir "." = true := by
  refine (isDir_iff hd).2 ⟨by decide +kernel, ?_⟩
  have hparts : Path.parts "." = ["."] := by decide +kernel
  have habs : Path.isAbsolute "." = false := by decide
  rw [hparts]
  simp only [Leads, habs, Bool.false_eq_true, if_false]
  cases d.lost with
  | zero => exact ⟨_, _, .tree (.dot .nil)⟩
  | succ lost => exact ⟨_, _, .dot .stay⟩

namespace Ordinary

theorem isDir_holder (ho : d.Ordinary path spot name) : d.isDir (Path.holder path) = true := by
  simp [isDir, ho.holder_eq, ho.directory]

theorem name_eq (ho : d.Ordinary path spot name) : Path.name path = name := by
  rw [Path.name, ho.last_eq]
  rfl

theorem leads_parent (ho : d.Ordinary path spot name) (hd : d.WellFormed) :
    ∃ par left, Path.parent? path = some par ∧ d.Leads par (Path.parts par) left spot := by
  obtain ⟨hcheck, left, spot', hl⟩ := (isDir_iff hd).1 ho.isDir_holder
  obtain rfl : spot' = spot := Except.ok.inj ((hl.resolve_eq hcheck).symm.trans ho.holder_eq)
  cases hpar : Path.parent? path with
  | none =>
    exact absurd (Path.dots_of_parent? hpar name (List.mem_of_getLast? ho.last_eq)) ho.ne_dot
  | some par =>
    refine ⟨par, left, rfl, ?_⟩
    by_cases hne : par = ""
    · -- the empty path and the dot begin at the same directory
      have hholder : Path.holder path = "." := by simp only [Path.holder, hpar, if_pos hne]
      have hparts : Path.parts "." = [] ++ ["."] := by decide +kernel
      have habs : Path.isAbsolute "" = Path.isAbsolute "." := by decide
      rw [hholder, hparts, leads_append_dots_iff fun s hs => List.mem_singleton.1 hs] at hl
      rw [hne]
      exact (leads_congr habs).2 hl
    · have hholder : Path.holder path = par := by simp only [Path.holder, hpar, if_neg hne]
      rwa [hholder] at hl

theorem leads (ho : d.Ordinary path spot name) (hd : d.WellFormed) :
    ∃ init left, Path.parts path = init ++ [name] ∧ d.Leads path init left spot := by
  obtain ⟨par, left, hpar, hl⟩ := ho.leads_parent hd
  obtain ⟨dots, last, rest, hparts, hdots, hrest, -⟩ := Path.parts_of_parent? hpar
  have hinit : Path.parts path = (Path.parts path).dropLast ++ [name] :=
    (List.dropLast_append_getLast? _ ho.last_eq).symm
  refine ⟨_, left, hinit, ?_⟩
  rw [Path.init_eq (hparts.symm.trans hinit) hrest ho.ne_dot, leads_append_dots_iff hdots]
  exact (leads_congr (Path.isAbsolute_of_parent? hpar)).1 hl

theorem locate_eq (ho : d.Ordinary path (.place dir) name) (hd : d.WellFormed)
    (hc : check path = .ok ()) :
    d.locate path = .ok (.entry dir name (Path.endsInSlash path)) := by
  obtain ⟨init, left, hparts, hl⟩ := ho.leads hd
  exact locate_eq_entry_iff.2 ⟨hc, ho.ne_dot, ho.ne_up, rfl, init, left, hparts, hl⟩

theorem ensureParentDir_eq (ho : d.Ordinary path spot name) :
    d.ensureParentDir path = (d, .ok ()) := by
  rcases ensureParentDir_cases d path with ⟨h, -⟩ | ⟨par, hpar, hne, hdir, -⟩
  · exact h
  · have hholder : Path.holder path = par := by simp only [Path.holder, hpar, if_neg hne]
    rw [← hholder, ho.isDir_holder] at hdir
    cases hdir

theorem child?_of_locate {last : String} {slash : Bool} (ho : d.Ordinary path spot name)
    (hd : d.WellFormed) (h : d.locate path = .ok (.entry dir last slash)) :
    spot.child? name = some (dir ++ [last]) := by
  obtain ⟨par, left, hpar, hl⟩ := ho.leads_parent hd
  obtain ⟨left', hl'⟩ := leads_parent? hpar h
  rw [← List.append_nil (Path.parts par)] at hl
  obtain ⟨_, _, rfl, hnil⟩ := hl'.of_append hl
  cases hnil
  rw [← ho.name_eq, name_of_locate h]
  rfl

/-- **The same directory holds it** in a tree with fewer ways, as long as it is there. -/
theorem of_keepsWays (ho : d.Ordinary path spot name) (hd' : d'.WellFormed)
    (hk : d'.KeepsWays d) (hb : d.SameBase d') (h : d'.isDir (Path.holder path) = true) :
    d'.Ordinary path spot name := by
  obtain ⟨hcheck, left, spot', hl⟩ := (isDir_iff hd').1 h
  obtain rfl : spot' = spot :=
    Except.ok.inj (((hl.mono hk hb.symm).resolve_eq hcheck).symm.trans ho.holder_eq)
  exact ⟨hl.resolve_eq hcheck, hd'.directory_of_leads hl, ho.last_eq, ho.ne_dot, ho.ne_up⟩

theorem get?_ne_directory (ho : d.Ordinary path (.place dir) name) (hd : d.WellFormed)
    (hc : check path = .ok ()) (hshort : isTooLong name = false) (hdir : d.isDir path = false) :
    d.get? (dir ++ [name]) ≠ some .directory := by
  intro hget
  obtain ⟨init, left, hparts, hl⟩ := ho.leads hd
  have hleads := hl.append (.enter ⟨ho.ne_dot, ho.ne_up, hshort⟩ hget .nil)
  rw [← hparts] at hleads
  rw [(isDir_iff hd).2 ⟨hc, _, _, hleads⟩] at hdir
  cases hdir

end Ordinary

/-- **Once the directory is gone**, as a file covers a link, it is not made again. -/
theorem Covers.ensureParentDir_eq_error {p : Place} (hc : d.Covers d' p) (hd : d.WellFormed)
    (hd' : d'.WellFormed) (ho : d.Ordinary path spot name)
    (h : d'.isDir (Path.holder path) = false) :
    ∃ e, d'.ensureParentDir path = (d', .error e) := by
  obtain ⟨e, hmake, hne⟩ := hc.makeDir_eq_error hd hd' ho.isDir_holder h
  rcases ensureParentDir_cases d' path with ⟨-, hthere⟩ | ⟨par, hpar, hpne, -, heq⟩
  · exfalso
    cases hpar : Path.parent? path with
    | none =>
      rw [Path.holder, hpar, hd'.isDir_dot] at h
      cases h
    | some par =>
      simp only [Path.holder, hpar] at h
      split at h
      · rw [hd'.isDir_dot] at h
        cases h
      · rename_i hpne
        rw [hthere par hpar hpne] at h
        cases h
  · have hholder : Path.holder path = par := by simp only [Path.holder, hpar, if_neg hpne]
    rw [hholder] at hmake h
    obtain ⟨above, habove⟩ := Path.ancestors_eq_cons par
    have hmakes : d'.makeDirs (par :: above) = (d', .error e) := by
      have hfind : d'.makeDirOrFind par = (d', .error e) := by
        simp only [makeDirOrFind, hmake, h, Bool.false_eq_true, if_false]
      rcases makeDirs_cons d' par above with ⟨-, hempty⟩ | hfirst | ⟨hnone, -⟩
      · exact absurd hempty hpne
      · rw [hfirst, hfind]
      · exact absurd (Except.error.inj (hmake.symm.trans hnone)) hne
    exact ⟨_, by rw [heq, habove, hmakes]; rfl⟩

/-! ## Names that no file can have -/

/-- **Why no file can be moved to a path**, whatever the tree. -/
def misnamed? (path : String) : Option IoError :=
  match check path with
  | .error e => some e
  | .ok () =>
    if isTooLong (Path.name path) then some .nameTooLong
    else if Path.endsInSlash path then some .notDirectory else none

theorem misnamed?_eq_none :
    misnamed? path = none ↔
      check path = .ok () ∧ isTooLong (Path.name path) = false ∧ Path.endsInSlash path = false := by
  rw [misnamed?]
  cases check path with
  | error e => simp
  | ok u => cases isTooLong (Path.name path) <;> cases Path.endsInSlash path <;> simp

theorem notMem_of_check (h : check path = .ok ()) : path.toList.contains '\x00' = false := by
  simpa using (check_eq_ok_iff.1 h).1

namespace Staged

/-- **A file beside an ordinary destination** is moved over it, unless the path is misnamed. -/
theorem rename_eq {tmp : String} (h : d.Staged d' temp dir tmp body) (hd : d.WellFormed)
    (ho : d.Ordinary path (.place dir) name) (hdir : d.isDir path = false) (hne : name ≠ tmp) :
    d'.rename temp.path path =
      match misnamed? path with
      | some e => .error e
      | none => .ok (d'.graft (dir ++ [tmp]) (dir ++ [name])) := by
  have hsrc := notMem_of_check (locate_eq_entry_iff.1 h.located).1
  cases hc : check path with
  | error e =>
    have hloc : d'.locate path = .error e := by simp only [locate, hc]
    simp only [misnamed?, hc]
    cases hnul : path.toList.contains '\x00' with
    | true =>
      rw [check, if_pos hnul] at hc
      simp [Disk.rename, ← Except.error.inj hc, List.contains_iff_mem.1 hnul]
    | false =>
      simp only [Disk.rename, hsrc, hnul, Bool.false_eq_true, or_self, if_false, h.locate_eq, hloc]
  | ok u =>
    have hloc := h.locate_iff.2 (ho.locate_eq hd hc)
    have hdest := notMem_of_check hc
    have hne' : dir ++ [tmp] ≠ dir ++ [name] := by simpa using hne.symm
    have hother := h.sharesFile_eq_false hd hne'.symm
    simp only [misnamed?, hc, ho.name_eq, Disk.rename, hsrc, hdest, Bool.false_eq_true, or_self,
      if_false, h.locate_eq, hloc, Target.dir, ne_eq, not_true_eq_false, renameEntry, h.short,
      h.get?_self, isPrefixOf_concat, hne', hother, false_or, reduceCtorEq, not_false_eq_true,
      true_and]
    cases hl : isTooLong name with
    | true => rfl
    | false =>
      cases hs : Path.endsInSlash path with
      | true => rfl
      | false =>
        have hget : d'.get? (dir ++ [name]) = d.get? (dir ++ [name]) := by
          rw [h.get?_eq, if_neg hne'.symm]
        have hnot := ho.get?_ne_directory hd hc hl hdir
        simp only [Bool.false_eq_true, if_false, renameFile, hget]

/-- **What a storage answers** for a file beside its ordinary destination. -/
theorem replaceFile_eq {tmp : String} (h : d.Staged d' temp dir tmp body) (hd : d.WellFormed)
    (ho : d.Ordinary path (.place dir) name) (hdir : d.isDir path = false) (hne : name ≠ tmp) :
    (d'.replaceFile temp.path path).2 =
      match misnamed? path with
      | some e => .error (.replace temp.path path e)
      | none => .ok none := by
  have hcross : misnamed? path ≠ some .crossesDevices := by
    rw [misnamed?]
    split
    · rename_i hc
      exact fun he => check_ne_crossesDevices (Option.some.inj he ▸ hc)
    · split
      · nofun
      · split <;> nofun
  rw [Disk.replaceFile, h.isDir_eq hd, hdir, if_neg Bool.false_ne_true, h.rename_eq hd ho hdir hne]
  cases hm : misnamed? path with
  | none => rfl
  | some e =>
    simp only
    split
    · rename_i hok
      cases hok
    · rename_i he
      exact absurd (Except.error.inj he ▸ hm) hcross
    · rename_i he
      rw [Except.error.inj he]

end Staged

end Disk

end Replica
