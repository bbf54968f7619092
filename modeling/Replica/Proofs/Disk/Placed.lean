import Mathlib.Data.List.Basic
import Replica.Disk.Placement
import Replica.Proofs.Disk.Staged

/-!
# A file beside its destination, and in its place

* `leads_iff_passes`: the steps of a path whose beginning is there;
* **`createTemp_beside`**: a temporary file in the parent of a destination is in the directory of
  the entry that the destination names;
* `locate_cases`: what the path to no directory can name;
* **`Staged.replaceFile`**: such a file takes the place of the destination, or nothing changes;
* **`Staged.closeTemp_graft`**: after that, closing it changes nothing;
* `replaceFile_eq_isDirectory_iff`: which destinations are refused as directories.
-/

namespace Replica.Disk

variable {d d' : Disk} {links left : Nat} {here dir : Place} {path name : String} {slash : Bool}
  {names steps : List String} {spot : Spot} {temp : TempFile} {options : TempOptions}
  {body : FileBody}

/-! ## Places by their names -/

theorem WellFormed.directory_above (hd : d.WellFormed) {e : Entry} {step : String}
    (h : d.get? (here ++ step :: names) = some e) (he : names = [] → e = .directory) :
    d.get? (here ++ [step]) = some .directory := by
  induction names using List.reverseRecOn generalizing e with
  | nil => rw [h, he rfl]
  | append_singleton names last ih =>
    rw [← List.cons_append, ← List.append_assoc] at h
    exact ih (hd.above h) fun _ => rfl

/-- **The names of a directory pass to it**, and through no link. -/
theorem WellFormed.passes_names (hd : d.WellFormed)
    (hdir : d.get? (here ++ names) = some .directory) (h : d.Passes links here names left dir) :
    left = links ∧ dir = here ++ names := by
  induction names generalizing here with
  | nil =>
    cases h
    exact ⟨rfl, (List.append_nil _).symm⟩
  | cons step rest ih =>
    have hstep := hd.directory_above hdir fun _ => rfl
    have hname := hd.named hstep
    cases h with
    | dot => exact absurd rfl hname.ne_dot
    | up => exact absurd rfl hname.ne_up
    | enter _ _ h =>
      rw [List.append_cons] at hdir
      obtain ⟨rfl, rfl⟩ := ih hdir h
      exact ⟨rfl, (List.append_cons _ _ _).symm⟩
    | follow _ hlink =>
      rw [hstep] at hlink
      cases hlink

theorem WellFormed.isEntryName_of_mem (hd : d.WellFormed)
    (hdir : d.get? (here ++ names) = some .directory) {step : String} (hs : step ∈ names) :
    IsEntryName step := by
  induction names generalizing here with
  | nil => exact absurd hs List.not_mem_nil
  | cons first rest ih =>
    rcases List.mem_cons.1 hs with rfl | hs
    · exact hd.named (hd.directory_above hdir fun _ => rfl)
    · rw [List.append_cons] at hdir
      exact ih hdir hs

/-! ## Paths that begin in the tree -/

/-- The path begins in the tree: it is absolute, or the working directory is there. -/
def Rooted (d : Disk) (path : String) : Prop := Path.isAbsolute path = true ∨ d.lost = 0

theorem leads_iff_passes (h : d.Rooted path) :
    d.Leads path steps left spot ↔
      ∃ dir, spot = .place dir ∧ d.Passes maxLinks (start d.workingDir path) steps left dir := by
  have hl : (if Path.isAbsolute path then 0 else d.lost) = 0 := by
    rcases h with h | h <;> simp [h]
  rw [Leads, hl]
  constructor
  · intro h
    cases h with
    | tree h => exact ⟨_, rfl, h⟩
  · rintro ⟨dir, rfl, h⟩
    exact .tree h

/-! ## Beside the destination -/

theorem absolutePath_eq_ok {parent there : String} (h : d.absolutePath parent = .ok there) :
    d.Rooted parent ∧ Path.isAbsolute there = true ∧ there =
      if Path.isAbsolute parent then parent else Path.join (placeText d.workingDir) parent := by
  rw [absolutePath] at h
  split at h
  · rename_i habs
    obtain rfl := Except.ok.inj h
    exact ⟨.inl habs, habs, by rw [if_pos habs]⟩
  · rename_i habs
    split at h
    · rename_i hl
      obtain rfl := Except.ok.inj h
      exact ⟨.inr hl, Path.isAbsolute_join (Path.isAbsolute_placeText _), by rw [if_neg habs]⟩
    · cases h

theorem WellFormed.workingDir_names (hd : d.WellFormed) (hlost : d.lost = 0) :
    d.get? ([] ++ d.workingDir) = some .directory ∧
      Path.parts (placeText d.workingDir) = d.workingDir := by
  have hwd : d.get? ([] ++ d.workingDir) = some .directory := by
    have := hd.live
    rwa [liveDir, hlost, Nat.sub_zero, List.take_length] at this
  refine ⟨hwd, Path.parts_placeText fun name hn => ?_⟩
  have hname := hd.isEntryName_of_mem hwd hn
  exact ⟨hname.ne_empty, hname.no_slash⟩

/-- **The absolute path to a directory** leads where the path itself does. -/
theorem WellFormed.leads_of_absolutePath (hd : d.WellFormed) {parent there : String}
    (h : d.absolutePath parent = .ok there)
    (hp : d.Passes maxLinks [] (Path.parts there) left dir) :
    d.Leads parent (Path.parts parent) left (.place dir) := by
  obtain ⟨hr, -, rfl⟩ := absolutePath_eq_ok h
  rw [leads_iff_passes hr]
  refine ⟨dir, rfl, ?_⟩
  cases habs : Path.isAbsolute parent with
  | true =>
    rw [habs, if_pos rfl] at hp
    rwa [start, if_pos habs]
  | false =>
    have hlost : d.lost = 0 := hr.resolve_left (by simp [habs])
    obtain ⟨hwd, hnames⟩ := hd.workingDir_names hlost
    rw [habs, if_neg Bool.false_ne_true, Path.parts_join habs, hnames, passes_append_iff] at hp
    obtain ⟨mid, here, hpwd, hp⟩ := hp
    obtain ⟨rfl, rfl⟩ := hd.passes_names hwd hpwd
    rwa [start, if_neg (by simp [habs])]

/-- **The directory of an entry** that is named by an absolute path to it and one more part. -/
theorem WellFormed.leads_of_locate (hd : d.WellFormed) {parent there last : String}
    (hthere : d.absolutePath parent = .ok there) (habs : Path.isAbsolute path = true)
    (hparts : Path.parts path = Path.parts there ++ [last])
    (h : d.locate path = .ok (.entry dir name slash)) :
    name = last ∧ ∃ left, d.Leads parent (Path.parts parent) left (.place dir) := by
  obtain ⟨-, -, -, -, init, left, hinit, hl⟩ := locate_eq_entry_iff.1 h
  obtain ⟨rfl, hname⟩ := List.append_inj' (hinit.symm.trans hparts) rfl
  obtain ⟨_, hspot, hpasses⟩ := (leads_iff_passes (.inl habs)).1 hl
  obtain rfl := Spot.place.inj hspot
  rw [start, if_pos habs] at hpasses
  exact ⟨(List.cons.inj hname).1, left, hd.leads_of_absolutePath hthere hpasses⟩

theorem WellFormed.slash_notMem_append_draw (hd : d.WellFormed) {beginning : String}
    (h : '/' ∉ beginning.toList) (k : Nat) : '/' ∉ (beginning ++ d.draw k).toList := by
  rw [String.toList_append, List.mem_append, not_or]
  exact ⟨h, fun h => absurd (hd.suffixes k _ h) (by decide)⟩

theorem tempName_ne_empty (suffix : String) : tempPrefix ++ suffix ≠ "" := by
  intro h
  have := congrArg String.toList h
  rw [String.toList_append] at this
  exact absurd (List.append_eq_nil_iff.1 this).1 (by decide)

/-- **A temporary file beside a destination** is in the directory of the entry that the destination
names, under a name that was drawn. -/
theorem createTemp_beside (hd : d.WellFormed)
    (h : d.createTemp ((Path.parent? path).getD ".") {} = .ok (d', temp)) :
    d.Rooted path ∧ ∃ k dir, d.Staged d' temp dir (tempPrefix ++ d.draw k) {} ∧
      ∀ dir' name slash, d.locate path = .ok (.entry dir' name slash) → dir' = dir := by
  obtain ⟨there, k, dir, name, hthere, htemp, hloc, hl, hn, hd'⟩ := createTemp_eq_ok h
  obtain ⟨hrooted, habs, -⟩ := absolutePath_eq_ok hthere
  have hslash : '/' ∉ (tempPrefix ++ d.draw k).toList :=
    hd.slash_notMem_append_draw (by decide) k
  have hpath : temp.path = Path.join there (tempPrefix ++ d.draw k) := by rw [htemp]; rfl
  have htempabs : Path.isAbsolute temp.path = true := hpath ▸ Path.isAbsolute_join habs
  have hparts : Path.parts temp.path = Path.parts there ++ [tempPrefix ++ d.draw k] := by
    rw [hpath, Path.parts_join_name there hslash (tempName_ne_empty _)]
  obtain ⟨rfl, left, hparent⟩ := hd.leads_of_locate hthere htempabs hparts hloc
  have hstaged : d.Staged d' temp dir (tempPrefix ++ d.draw k) {} := by
    subst htemp hd'
    exact ⟨hloc, hl, hn, rfl, ⟨rfl, rfl, rfl, rfl⟩, fun q => get?_put _ (by simp), rfl⟩
  cases hpar : Path.parent? path with
  | none =>
    rw [hpar] at hrooted
    refine ⟨.inr (hrooted.resolve_left (by decide)), k, dir, hstaged, fun dir' last slash hd => ?_⟩
    -- the last part of a path without a parent is a dot
    obtain ⟨-, hdot, -, -, init, _, hparts, -⟩ := locate_eq_entry_iff.1 hd
    exact absurd (Path.dots_of_parent? hpar last (by simp [hparts])) hdot
  | some par =>
    rw [hpar, Option.getD_some] at hrooted hparent
    refine ⟨?_, k, dir, hstaged, fun dir' last slash hd => ?_⟩
    · rwa [Rooted, Path.isAbsolute_of_parent? hpar] at hrooted
    · obtain ⟨_, hleads'⟩ := leads_parent? hpar hd
      exact hleads'.unique hparent

/-! ## What a path can name -/

theorem walk_ne_crossesDevices {missing : Bool} {links : Nat} {here : Place} {steps : List String} :
    d.walk missing links here steps ≠ .error .crossesDevices := by
  intro h
  cases steps with
  | nil =>
    rw [walk_nil] at h
    cases h
  | cons step rest =>
    rcases step_cases step with rfl | rfl | ⟨hs, hs', hl⟩ | hs
    · rw [walk_dot] at h
      exact walk_ne_crossesDevices h
    · rw [walk_up] at h
      exact walk_ne_crossesDevices h
    · rw [walk_tooLong hs hs' hl] at h
      cases h
    · rw [walk_name hs] at h
      split at h
      · split at h <;> cases h
      · exact walk_ne_crossesDevices h
      · split at h <;> cases h
      · cases links with
        | zero => cases h
        | succ links => exact walk_ne_crossesDevices h
termination_by (links, steps.length)

theorem check_eq_error {e : IoError} (h : check path = .error e) :
    e = .nulInPath ∨ e = .noEntry ∨ e = .nameTooLong := by
  rw [check] at h
  split at h
  · exact .inl (Except.error.inj h).symm
  · split at h
    · exact .inr (.inl (Except.error.inj h).symm)
    · split at h
      · exact .inr (.inr (Except.error.inj h).symm)
      · cases h

theorem check_ne_crossesDevices : check path ≠ .error .crossesDevices := by
  intro h
  rcases check_eq_error h with h | h | h <;> cases h

/-- **What a path names** that begins in the tree and leads to no directory. -/
theorem locate_cases (hd : d.WellFormed) (hr : d.Rooted path) (hdir : d.isDir path = false) :
    (∃ e, d.locate path = .error e ∧ e ≠ .crossesDevices) ∨
      ∃ dir name slash, d.locate path = .ok (.entry dir name slash) := by
  cases hc : check path with
  | error e =>
    exact .inl ⟨e, by simp only [locate, hc], fun he => check_ne_crossesDevices (he ▸ hc)⟩
  | ok u =>
    cases hw : d.walk false maxLinks (start d.workingDir path)
        ((Path.parts path).dropLast ++ ["."]) with
    | error e =>
      refine .inl ⟨e, ?_, fun he => walk_ne_crossesDevices (he ▸ hw)⟩
      simp only [locate, hc, walkPath_eq_walk hr, hw, Except.map]
    | ok dir =>
      right
      obtain ⟨left, hpasses⟩ := passes_of_walk hw
      -- a path that ends in no name leads to a directory
      have hnot : ∀ {left' dir'},
          ¬d.Passes maxLinks (start d.workingDir path) (Path.parts path) left' dir' := by
        intro left' dir' hp
        rw [← Bool.not_eq_true, isDir_iff hd] at hdir
        exact hdir ⟨hc, left', _, (leads_iff_passes hr).2 ⟨dir', rfl, hp⟩⟩
      rcases List.eq_nil_or_concat' (Path.parts path) with hnil | ⟨init, last, hlast⟩
      · rw [hnil] at hpasses hnot
        exact absurd hpasses hnot
      · rw [hlast, List.dropLast_concat] at hpasses
        rw [hlast] at hnot
        refine ⟨dir, last, Path.endsInSlash path, locate_eq_entry_iff.2
          ⟨hc, fun h => ?_, fun h => ?_, rfl, init, left, hlast,
            (leads_iff_passes hr).2 ⟨dir, rfl, hpasses⟩⟩⟩
        · subst h
          exact hnot (hpasses.append (.dot .nil))
        · subst h
          exact hnot (hpasses.append (.up .nil))

/-! ## In the place of the destination -/

namespace Staged

theorem locate_iff (h : d.Staged d' temp dir name body) {path last : String} {here : Place} :
    d'.locate path = .ok (.entry here last slash) ↔ d.locate path = .ok (.entry here last slash) :=
  ⟨locate_mono h.keepsWays_symm h.base.symm, locate_mono h.keepsWays h.base⟩

theorem get?_graft (h : d.Staged d' temp dir name body) (hd : d.WellFormed) {last : String}
    (hn : d.get? (dir ++ [last]) ≠ some .directory) (hne : last ≠ name) (q : Place) :
    (d'.graft (dir ++ [name]) (dir ++ [last])).get? q =
      if q = dir ++ [last] then some (.file temp.id) else d.get? q := by
  have hne' : dir ++ [name] ≠ dir ++ [last] := by simpa using hne.symm
  have hdir : d'.get? dir = some .directory :=
    ((h.wellFormed hd).of_locate h.locate_eq).1
  have hn' : d'.get? (dir ++ [last]) ≠ some .directory := by
    rwa [h.get?_eq, if_neg hne'.symm]
  rw [(h.wellFormed hd).get?_graft h.get?_self nofun hdir hn' hne', h.get?_eq]
  by_cases hq : q = dir ++ [last]
  · rw [if_pos hq, if_pos hq]
  · rw [if_neg hq, if_neg hq]
    split
    · rename_i hq'
      rw [hq', h.new]
    · rfl

theorem isPrefixOf_concat (dir : Place) (name : String) :
    (dir ++ [name]).isPrefixOf dir = false := by
  rw [← Bool.not_eq_true, List.isPrefixOf_iff_prefix]
  intro hp
  have := hp.length_le
  rw [List.length_append, List.length_singleton] at this
  omega

theorem rename_of_locate (h : d.Staged d' temp dir name body) (hd : d.WellFormed) {last : String}
    (hloc : d.locate path = .ok (.entry dir last slash)) (hne : last ≠ name) :
    (∃ e, d'.rename temp.path path = .error e ∧ e ≠ .crossesDevices) ∨
      d.get? (dir ++ [last]) ≠ some .directory ∧
        d'.rename temp.path path = .ok (d'.graft (dir ++ [name]) (dir ++ [last])) := by
  have hloc' := h.locate_iff.2 hloc
  have hne' : dir ++ [name] ≠ dir ++ [last] := by simpa using hne.symm
  have hother := h.sharesFile_eq_false hd hne'.symm
  rw [Disk.rename]
  split
  · exact .inl ⟨_, rfl, nofun⟩
  · simp only [h.locate_eq, hloc', Target.dir, ne_eq, not_true_eq_false, if_false, renameEntry,
      h.short, h.get?_self, isPrefixOf_concat, Bool.false_eq_true, hne', hother, false_or,
      reduceCtorEq, not_false_eq_true, true_and]
    cases hl : isTooLong last with
    | true => exact .inl ⟨.nameTooLong, rfl, nofun⟩
    | false =>
      cases slash with
      | true => exact .inl ⟨.notDirectory, rfl, nofun⟩
      | false =>
        have hget : d'.get? (dir ++ [last]) = d.get? (dir ++ [last]) := by
          rw [h.get?_eq, if_neg hne'.symm]
        simp only [Bool.false_eq_true, if_false, renameFile, hget]
        split
        · exact .inl ⟨.isDirectory, rfl, nofun⟩
        · rename_i hnot
          exact .inr ⟨hnot, rfl⟩

/-- **Moving the file** to a destination that leads to no directory, within one file system. -/
theorem rename (h : d.Staged d' temp dir name body) (hd : d.WellFormed) (hr : d.Rooted path)
    (hdir : d'.isDir path = false)
    (hsame : ∀ dir' last slash, d.locate path = .ok (.entry dir' last slash) →
      dir' = dir ∧ last ≠ name) :
    (∃ e, d'.rename temp.path path = .error e ∧ e ≠ .crossesDevices) ∨
      ∃ last slash, d.locate path = .ok (.entry dir last slash) ∧ last ≠ name ∧
        d.get? (dir ++ [last]) ≠ some .directory ∧
        d'.rename temp.path path = .ok (d'.graft (dir ++ [name]) (dir ++ [last])) := by
  have hr' : d'.Rooted path := hr.imp_right fun hl => h.base.lost.trans hl
  rcases locate_cases (h.wellFormed hd) hr' hdir with ⟨e, hloc, he⟩ | ⟨dir', last, slash, hloc⟩
  · left
    rw [Disk.rename]
    split
    · exact ⟨_, rfl, nofun⟩
    · exact ⟨e, by simp only [h.locate_eq, hloc], he⟩
  · have hloc := h.locate_iff.1 hloc
    obtain ⟨rfl, hne⟩ := hsame dir' last slash hloc
    exact (h.rename_of_locate hd hloc hne).imp_right fun hok => ⟨last, slash, hloc, hne, hok⟩

/-- **The file takes the place** of the entry that the destination names, or nothing changes. -/
theorem replaceFile (h : d.Staged d' temp dir name body) (hd : d.WellFormed) (hr : d.Rooted path)
    (hsame : ∀ dir' last slash, d.locate path = .ok (.entry dir' last slash) →
      dir' = dir ∧ last ≠ name) :
    (∃ e, d'.replaceFile temp.path path = (d', .error e)) ∨
      ∃ last slash, d.locate path = .ok (.entry dir last slash) ∧ last ≠ name ∧
        d.get? (dir ++ [last]) ≠ some .directory ∧
        d'.replaceFile temp.path path = (d'.graft (dir ++ [name]) (dir ++ [last]), .ok none) := by
  rw [Disk.replaceFile]
  cases hdir : d'.isDir path with
  | true => exact .inl ⟨_, rfl⟩
  | false =>
    simp only [Bool.false_eq_true, if_false]
    rcases h.rename hd hr hdir hsame with ⟨e, hren, he⟩ | ⟨last, slash, hloc, hne, hnot, hren⟩
    · left
      rw [hren]
      split
      · rename_i hok
        cases hok
      · rename_i hcross
        exact absurd (Except.error.inj hcross) he
      · exact ⟨_, rfl⟩
    · exact .inr ⟨last, slash, hloc, hne, hnot, by rw [hren]⟩

/-- **Closing the file** after it has taken its place changes nothing. -/
theorem closeTemp_graft (h : d.Staged d' temp dir name body) (hd : d.WellFormed) {last : String}
    (hn : d.get? (dir ++ [last]) ≠ some .directory) (hne : last ≠ name) :
    ((d'.graft (dir ++ [name]) (dir ++ [last])).closeTemp temp).1 =
      d'.graft (dir ++ [name]) (dir ++ [last]) := by
  have hget := h.get?_graft hd hn hne
  have hkeeps : (d'.graft (dir ++ [name]) (dir ++ [last])).KeepsWays d := by
    intro q e he hq
    rw [hget] at hq
    split at hq
    · exact absurd (Option.some.inj hq).symm (he _)
    · exact hq
  have hbase : (d'.graft (dir ++ [name]) (dir ++ [last])).SameBase d :=
    SameBase.symm ⟨h.base.workingDir, h.base.lost, h.base.mounts, h.base.draw⟩
  rw [Disk.closeTemp]
  split
  · rename_i hunlink
    -- the path of the file can name nothing but the name that it had
    exfalso
    rw [unlink] at hunlink
    split at hunlink
    · cases hunlink
    · cases hunlink
    · cases hunlink
    · rename_i hloc
      have hloc := locate_mono hkeeps hbase hloc
      rw [h.located] at hloc
      obtain ⟨rfl, rfl, rfl⟩ := Target.entry.inj (Except.ok.inj hloc)
      have hgone : (d'.graft (dir ++ [name]) (dir ++ [last])).get? (dir ++ [name]) = none := by
        rw [hget, if_neg (by simpa using hne.symm), h.new]
      simp [h.short, hgone] at hunlink
  · rfl
  · rfl

end Staged

/-! ## Directories -/

theorem copyIntoPlace_ne_isDirectory (d : Disk) (src dest : String) :
    (d.copyIntoPlace src dest).2 ≠ .error (.isDirectory dest) := by
  intro h
  delta copyIntoPlace at h
  split at h
  · rename_i hc
    obtain ⟨_, rfl⟩ := createTemp_eq_error hc
    cases h
  · split at h
    · cases h
    · split at h
      · rename_i hc
        obtain ⟨_, rfl⟩ := closeTemp_eq_error hc
        cases h
      · cases h

/-- **A destination is refused as a directory** if and only if it leads to one. -/
theorem replaceFile_eq_isDirectory_iff (d : Disk) (src dest : String) :
    (d.replaceFile src dest).2 = .error (.isDirectory dest) ↔ d.isDir dest = true := by
  rw [Disk.replaceFile]
  split
  · rename_i h
    exact ⟨fun _ => h, fun _ => rfl⟩
  · rename_i h
    refine ⟨fun hr => ?_, fun hr => absurd hr h⟩
    split at hr
    · cases hr
    · exact absurd hr (copyIntoPlace_ne_isDirectory d src dest)
    · cases hr

end Replica.Disk
