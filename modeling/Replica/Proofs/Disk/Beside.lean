import Mathlib.Data.List.Nodup
import Mathlib.Data.List.Perm.Subperm
import Mathlib.Data.Nat.Find
import Replica.Proofs.Disk.Ordinary

/-!
# The name of a file beside its destination

The name of a temporary file is the first free one of those that are drawn. Which one that is, and
whether there is one, depends only on the directory of the destination and on the names in it.

* `tried`: what comes of one name;
* **`Ordinary.tried_eq`**: it depends on whether the name is taken in the directory;
* `createTempFrom_of_first`, **`length_le_of_taken`**: the first name that is free, and that there
  is one among as many different ones as there are entries, and one more;
* **`Ordinary.stagedPath_congr`**: two trees with the same names taken.
-/

namespace Replica.Disk

variable {d d' : Disk} {here dir : Place} {spot : Spot} {path name there tmp : String}
  {names : List String} {mode : Nat} {temp : TempFile}

/-! ## Paths beside a destination -/

theorem WellFormed.passes_or_tooLong (hd : d.WellFormed)
    (hdir : d.get? (here ++ names) = some .directory) :
    (names.any isTooLong = false ∧ ∀ links, d.Passes links here names links (here ++ names)) ∨
      names.any isTooLong = true ∧ ∀ missing links rest,
        d.walk missing links here (names ++ rest) = .error .nameTooLong := by
  induction names generalizing here with
  | nil => exact .inl ⟨rfl, fun links => (List.append_nil here).symm ▸ .nil⟩
  | cons step rest ih =>
    have hstep := hd.directory_above hdir fun _ => rfl
    have hname := hd.named hstep
    rw [List.append_cons] at hdir ⊢
    cases htoo : isTooLong step with
    | true =>
      refine .inr ⟨by simp [htoo], fun missing links rest' => ?_⟩
      rw [List.cons_append, walk_tooLong hname.ne_dot hname.ne_up htoo]
    | false =>
      have hs : IsName step := ⟨hname.ne_dot, hname.ne_up, htoo⟩
      refine (ih hdir).imp (fun ⟨hany, hpass⟩ => ?_) fun ⟨hany, hwalk⟩ => ?_
      · exact ⟨by simp [htoo, hany], fun links => .enter hs hstep (hpass links)⟩
      · refine ⟨by simp [htoo, hany], fun missing links rest' => ?_⟩
        simp only [List.cons_append, walk_name hs, hstep, hwalk missing links rest']

theorem endsInSlash_join (h : Path.isAbsolute tmp = false) (hslash : '/' ∉ tmp.toList)
    (hne : tmp ≠ "") : Path.endsInSlash (Path.join there tmp) = false := by
  have htmp : tmp.toList ≠ [] := fun h => hne (String.toList_eq_nil_iff.1 h)
  have hjoin : (Path.join there tmp).toList.getLast? ≠ some '/' := by
    rw [Path.join_of_relative there h, String.toList_append, List.getLast?_append_of_ne_nil _ htmp]
    exact fun hl => hslash (List.mem_of_getLast? hl)
  simp [Path.endsInSlash, hjoin]

/-- The working directory of a relative path has a name in its place that is too long. -/
def isFar (d : Disk) (path : String) : Bool :=
  !Path.isAbsolute path && d.workingDir.any isTooLong

theorem Ordinary.walk_there (ho : d.Ordinary path spot name) (hd : d.WellFormed)
    (hthere : d.absolutePath ((Path.parent? path).getD ".") = .ok there) :
    ∃ dir, spot = .place dir ∧ d.walk false maxLinks [] (Path.parts there ++ ["."]) =
      if d.isFar path then .error .nameTooLong else .ok dir := by
  obtain ⟨par, left, hpar, hl⟩ := ho.leads_parent hd
  rw [hpar, Option.getD_some] at hthere
  obtain ⟨hrooted, -, rfl⟩ := absolutePath_eq_ok hthere
  obtain ⟨dir, rfl, hpass⟩ := (leads_iff_passes hrooted).1 hl
  refine ⟨dir, rfl, ?_⟩
  rw [isFar, ← Path.isAbsolute_of_parent? hpar]
  cases habs : Path.isAbsolute par with
  | true =>
    rw [start, if_pos habs] at hpass
    rw [if_pos rfl, hpass.walk_append, walk_dot, walk_nil]
    rfl
  | false =>
    have hlost : d.lost = 0 := hrooted.resolve_left (by simp [habs])
    obtain ⟨hwd, hnames⟩ := hd.workingDir_names hlost
    rw [start, if_neg (by simp [habs])] at hpass
    rw [if_neg Bool.false_ne_true, Path.parts_join habs, hnames, List.append_assoc]
    rcases hd.passes_or_tooLong hwd with ⟨hany, hwalk⟩ | ⟨hany, hwalk⟩
    · rw [(hwalk maxLinks).walk_append, List.nil_append, hpass.walk_append, walk_dot, walk_nil,
        hany]
      rfl
    · rw [hwalk, hany]
      rfl

/-- **What a path beside a destination names.** -/
theorem Ordinary.locate_beside (ho : d.Ordinary path spot name) (hd : d.WellFormed)
    (hthere : d.absolutePath ((Path.parent? path).getD ".") = .ok there) :
    ∃ dir, spot = .place dir ∧ ∀ tmp, IsEntryName tmp →
      d.locate (Path.join there tmp) =
        match check (Path.join there tmp) with
        | .error e => .error e
        | .ok () => if d.isFar path then .error .nameTooLong else .ok (.entry dir tmp false) := by
  obtain ⟨dir, hspot, hwalk⟩ := ho.walk_there hd hthere
  refine ⟨dir, hspot, fun tmp htmp => ?_⟩
  have hrel : Path.isAbsolute tmp = false := Path.head?_of_notMem htmp.no_slash
  have habs : Path.isAbsolute (Path.join there tmp) = true :=
    Path.isAbsolute_join (absolutePath_eq_ok hthere).2.1
  have hparts : Path.parts (Path.join there tmp) = Path.parts there ++ [tmp] :=
    Path.parts_join_name there htmp.no_slash htmp.ne_empty
  have hwalk : d.walkPath false (Path.join there tmp) (Path.parts there ++ ["."]) =
      if d.isFar path then .error .nameTooLong else .ok (.place dir) := by
    rw [walkPath, habs, if_pos rfl, walkFrom_zero, start, if_pos habs, hwalk]
    split <;> rfl
  rw [locate]
  cases check (Path.join there tmp) with
  | error e => rfl
  | ok u =>
    simp only [hparts, List.dropLast_concat, List.getLast?_concat, hwalk]
    cases d.isFar path with
    | true => rfl
    | false =>
      simp [htmp.ne_dot, htmp.ne_up, endsInSlash_join hrel htmp.no_slash htmp.ne_empty]

/-! ## Names that are tried -/

/-- **What comes of trying a name** for a new file, but for the tree with the file. -/
def tried (d : Disk) (path : String) (mode : Nat) : Except IoError Unit :=
  (d.createNew path mode).map fun _ => ()

theorem Ordinary.tried_eq (ho : d.Ordinary path spot name) (hd : d.WellFormed)
    (hthere : d.absolutePath ((Path.parent? path).getD ".") = .ok there) (mode : Nat) :
    ∃ dir, spot = .place dir ∧ ∀ tmp, IsEntryName tmp →
      d.tried (Path.join there tmp) mode =
        match check (Path.join there tmp) with
        | .error e => .error e
        | .ok () =>
          if d.isFar path || isTooLong tmp then .error .nameTooLong
          else if (d.get? (dir ++ [tmp])).isSome then .error .alreadyExists else .ok () := by
  obtain ⟨dir, hspot, hloc⟩ := ho.locate_beside hd hthere
  refine ⟨dir, hspot, fun tmp htmp => ?_⟩
  have hget : (d.newFile mode).1.get? (dir ++ [tmp]) = d.get? (dir ++ [tmp]) := rfl
  rw [tried, createNew, hloc tmp htmp]
  cases check (Path.join there tmp) with
  | error e => rfl
  | ok u =>
    cases d.isFar path with
    | true => rfl
    | false =>
      simp only [Bool.false_eq_true, if_false, addEntry, hget, Bool.false_or]
      cases isTooLong tmp with
      | true => rfl
      | false => cases (d.get? (dir ++ [tmp])).isSome <;> rfl

theorem WellFormed.isEntryName_tempName (hd : d.WellFormed) (k : Nat) :
    IsEntryName (tempPrefix ++ d.draw k) := by
  have hlong : ∀ s : String, s.toList.length < tempPrefix.toList.length →
      tempPrefix ++ d.draw k ≠ s := by
    rintro s hs rfl
    rw [String.toList_append, List.length_append] at hs
    omega
  exact ⟨hlong _ (by decide), hd.slash_notMem_append_draw (by decide) k, hlong _ (by decide),
    hlong _ (by decide)⟩

/-! ## The first free name -/

/-- **The first of the names that is not taken** decides. -/
theorem createTempFrom_of_first {n k limit : Nat} (options : TempOptions) (hk : k < limit)
    (htaken : ∀ j < k, d.tried (d.tempPath there options.beginning (n + j)) options.mode =
      .error .alreadyExists)
    (hfree : d.tried (d.tempPath there options.beginning (n + k)) options.mode ≠
      .error .alreadyExists) :
    (d.createTempFrom there options n limit).map (·.2.path) =
      match d.tried (d.tempPath there options.beginning (n + k)) options.mode with
      | .ok () => .ok (d.tempPath there options.beginning (n + k))
      | .error e => .error (.atPath e (d.tempPath there options.beginning (n + k))) := by
  -- on how many names are taken before it
  induction k generalizing n limit with
  | zero =>
    obtain ⟨limit, rfl⟩ := Nat.exists_eq_add_one_of_ne_zero (Nat.ne_of_gt hk)
    rw [Nat.add_zero] at hfree ⊢
    unfold createTempFrom
    simp only [tried] at hfree ⊢
    cases hnew : d.createNew (d.tempPath there options.beginning n) options.mode with
    | ok r => rfl
    | error e =>
      rw [hnew] at hfree
      cases e with
      | alreadyExists => exact absurd rfl hfree
      | _ => rfl
  | succ k ih =>
    obtain ⟨limit, rfl⟩ := Nat.exists_eq_add_one_of_ne_zero (Nat.ne_of_gt (Nat.zero_lt_of_lt hk))
    have hn : ∀ j, n + 1 + j = n + (j + 1) := fun j => by omega
    have hfirst : d.createNew (d.tempPath there options.beginning n) options.mode =
        .error .alreadyExists := by
      have := htaken 0 (Nat.zero_lt_succ k)
      rw [tried, Nat.add_zero] at this
      cases hnew : d.createNew (d.tempPath there options.beginning n) options.mode with
      | ok r =>
        rw [hnew] at this
        cases this
      | error e =>
        rw [hnew] at this
        exact congrArg _ (Except.error.inj this)
    unfold createTempFrom
    simp only [hfirst]
    have hrest := ih (n := n + 1) (Nat.lt_of_succ_lt_succ hk)
      (fun j hj => by rw [hn]; exact htaken (j + 1) (Nat.succ_lt_succ hj)) (by rwa [hn])
    rw [hrest, hn]

theorem mem_of_find? {p : Place} {entries : List (Place × Entry)}
    (h : (find? p entries).isSome = true) : p ∈ entries.map Prod.fst := by
  induction entries with
  | nil => cases h
  | cons x entries ih =>
    rw [find?] at h
    split at h
    · rename_i hx
      exact hx ▸ List.mem_cons_self
    · exact List.mem_cons_of_mem _ (ih h)

theorem length_le_of_taken {count : Nat} (dir : Place)
    (hdistinct : ((List.range count).map d.draw).Nodup)
    (htaken : ∀ k < count, (d.get? (dir ++ [tempPrefix ++ d.draw k])).isSome = true) :
    count ≤ d.entries.length := by
  have hinj : Function.Injective fun suffix => dir ++ [tempPrefix ++ suffix] := by
    intro a b hab
    have hcat : tempPrefix ++ a = tempPrefix ++ b := by simpa using hab
    have := congrArg String.toList hcat
    rw [String.toList_append, String.toList_append] at this
    exact String.toList_inj.1 (List.append_cancel_left this)
  have hsub : ((List.range count).map d.draw).map (fun suffix => dir ++ [tempPrefix ++ suffix]) ⊆
      d.entries.map Prod.fst := by
    intro p hp
    simp only [List.mem_map, List.mem_range] at hp
    obtain ⟨_, ⟨k, hk, rfl⟩, rfl⟩ := hp
    have := htaken k hk
    rw [get?, if_neg (by simp)] at this
    exact mem_of_find? this
  have hle := (List.Nodup.subperm (List.Nodup.map hinj hdistinct) hsub).length_le
  simpa using hle

theorem Ordinary.isSome_of_tried (ho : d.Ordinary path (.place dir) name) (hd : d.WellFormed)
    (hthere : d.absolutePath ((Path.parent? path).getD ".") = .ok there) (htmp : IsEntryName tmp)
    (h : d.tried (Path.join there tmp) mode = .error .alreadyExists) :
    (d.get? (dir ++ [tmp])).isSome = true := by
  obtain ⟨dir', hspot, htry⟩ := ho.tried_eq hd hthere mode
  rw [htry tmp htmp, ← Spot.place.inj hspot] at h
  split at h
  · rename_i hc
    rcases check_eq_error hc with he | he | he <;> cases he.symm.trans (Except.error.inj h)
  · split at h
    · cases h
    · split at h
      · assumption
      · cases h

/-- **One of the names is free**: there is a first one. -/
theorem Ordinary.exists_first (ho : d.Ordinary path (.place dir) name) (hd : d.WellFormed)
    (hthere : d.absolutePath ((Path.parent? path).getD ".") = .ok there) (mode : Nat)
    (hdistinct : ((List.range (d.entries.length + 1)).map d.draw).Nodup) :
    ∃ k ≤ d.entries.length,
      d.tried (Path.join there (tempPrefix ++ d.draw k)) mode ≠ .error .alreadyExists ∧
        ∀ j < k, d.tried (Path.join there (tempPrefix ++ d.draw j)) mode =
          .error .alreadyExists := by
  have hex : ∃ k, k ≤ d.entries.length ∧
      d.tried (Path.join there (tempPrefix ++ d.draw k)) mode ≠ .error .alreadyExists := by
    by_contra hnone
    refine absurd (length_le_of_taken dir hdistinct fun k hk => ?_) (Nat.not_succ_le_self _)
    have htried : d.tried (Path.join there (tempPrefix ++ d.draw k)) mode =
        .error .alreadyExists := by
      by_contra hne
      exact hnone ⟨k, Nat.le_of_lt_succ hk, hne⟩
    exact ho.isSome_of_tried hd hthere (hd.isEntryName_tempName k) htried
  refine ⟨Nat.find hex, (Nat.find_spec hex).1, (Nat.find_spec hex).2, fun j hj => ?_⟩
  by_contra hne
  exact Nat.find_min hex hj ⟨Nat.le_trans (Nat.le_of_lt hj) (Nat.find_spec hex).1, hne⟩

/-! ## The path of the temporary file -/

/-- **The path of the temporary file** for a destination. -/
def stagedPath (d : Disk) (path : String) : Except FileError String :=
  (d.createTemp ((Path.parent? path).getD ".") {}).map (·.2.path)

/-- **A temporary file for a destination** is in the directory of the destination. -/
theorem Ordinary.staged_of_createTemp (ho : d.Ordinary path spot name) (hd : d.WellFormed)
    (h : d.createTemp ((Path.parent? path).getD ".") {} = .ok (d', temp)) :
    ∃ dir k, spot = .place dir ∧ d.Staged d' temp dir (tempPrefix ++ d.draw k) {} := by
  obtain ⟨there, k, dir, last, hthere, htemp, hloc, hl, hn, hd'⟩ := createTemp_eq_ok h
  obtain ⟨dir', hspot, hall⟩ := ho.locate_beside hd hthere
  have hpath : temp.path = Path.join there (tempPrefix ++ d.draw k) := by rw [htemp]; rfl
  have hloc' := hall _ (hd.isEntryName_tempName k)
  rw [← hpath, hloc] at hloc'
  obtain ⟨rfl, rfl⟩ : dir = dir' ∧ last = tempPrefix ++ d.draw k := by
    split at hloc'
    · cases hloc'
    · split at hloc'
      · cases hloc'
      · exact ⟨(Target.entry.inj (Except.ok.inj hloc')).1,
          (Target.entry.inj (Except.ok.inj hloc')).2.1⟩
  subst htemp hd'
  exact ⟨dir, k, hspot, hloc, hl, hn, rfl, ⟨rfl, rfl, rfl, rfl⟩, fun q => get?_put _ (by simp), rfl⟩

theorem stagedPath_of_first {k : Nat}
    (hthere : d.absolutePath ((Path.parent? path).getD ".") = .ok there)
    (hk : k ≤ d.entries.length)
    (htaken : ∀ j < k, d.tried (d.tempPath there tempPrefix j) defaultMode = .error .alreadyExists)
    (hfree : d.tried (d.tempPath there tempPrefix k) defaultMode ≠ .error .alreadyExists) :
    d.stagedPath path = match d.tried (d.tempPath there tempPrefix k) defaultMode with
      | .ok () => .ok (d.tempPath there tempPrefix k)
      | .error e => .error
        (.tempFile ((Path.parent? path).getD ".") (.atPath e (d.tempPath there tempPrefix k))) := by
  have hfirst := createTempFrom_of_first {} (Nat.lt_succ_of_le hk)
    (fun j hj => (Nat.zero_add j).symm ▸ htaken j hj) ((Nat.zero_add k).symm ▸ hfree)
  simp only [Nat.zero_add] at hfirst
  have hcomm : ∀ r : Except IoError (Disk × TempFile), ∀ f : IoError → FileError,
      (r.mapError f).map (·.2.path) = (r.map (·.2.path)).mapError f := by
    rintro (e | r) f <;> rfl
  simp only [stagedPath, createTemp, hthere, hcomm, hfirst]
  cases d.tried (d.tempPath there tempPrefix k) defaultMode <;> rfl

/-- **The same temporary name is found** in trees in which the same names are taken in the directory
of the destination, however many other entries there are. -/
theorem Ordinary.stagedPath_congr (ho : d.Ordinary path spot name)
    (ho' : d'.Ordinary path spot name) (hd : d.WellFormed) (hd' : d'.WellFormed) (hb : d.SameBase d')
    (hdistinct : ((List.range (d.entries.length + 1)).map d.draw).Nodup)
    (htaken : ∀ dir, spot = .place dir → ∀ k, (d'.get? (dir ++ [tempPrefix ++ d.draw k])).isSome =
      (d.get? (dir ++ [tempPrefix ++ d.draw k])).isSome) :
    d'.stagedPath path = d.stagedPath path := by
  have habs : d'.absolutePath ((Path.parent? path).getD ".") =
      d.absolutePath ((Path.parent? path).getD ".") := by
    simp only [absolutePath, hb.lost, hb.workingDir]
  cases hthere : d.absolutePath ((Path.parent? path).getD ".") with
  | error e => simp only [stagedPath, createTemp, habs, hthere]
  | ok there =>
    obtain ⟨dir, rfl, htry⟩ := ho.tried_eq hd hthere defaultMode
    obtain ⟨dir', hspot, htry'⟩ := ho'.tried_eq hd' (habs.trans hthere) defaultMode
    obtain rfl := Spot.place.inj hspot
    have hpath : ∀ n, d'.tempPath there tempPrefix n = d.tempPath there tempPrefix n := by
      intro n
      rw [tempPath, tempPath, hb.draw]
    have hsame : ∀ n, d'.tried (d.tempPath there tempPrefix n) defaultMode =
        d.tried (d.tempPath there tempPrefix n) defaultMode := by
      intro n
      have hfar : d'.isFar path = d.isFar path := by simp only [isFar, hb.workingDir]
      have hname := hd.isEntryName_tempName n
      rw [tempPath, htry' _ hname, htry _ hname, hfar, htaken dir rfl n]
    obtain ⟨k, hk, hfree, hbefore⟩ := ho.exists_first hd hthere defaultMode hdistinct
    -- all names before the first that is free are taken in both, so both try that one
    have hk' : k ≤ d'.entries.length := by
      have hsub : ((List.range k).map d.draw).Sublist
          ((List.range (d.entries.length + 1)).map d.draw) :=
        (List.range_sublist.2 (Nat.le_succ_of_le hk)).map _
      refine length_le_of_taken dir (hb.draw ▸ hdistinct.sublist hsub) fun j hj => ?_
      rw [hb.draw, htaken dir rfl j]
      exact ho.isSome_of_tried hd hthere (hd.isEntryName_tempName j) (hbefore j hj)
    rw [stagedPath_of_first hthere hk hbefore hfree,
      stagedPath_of_first (k := k) (habs.trans hthere) hk'
        (fun j hj => by rw [hpath, hsame]; exact hbefore j hj) (by rw [hpath, hsame]; exact hfree),
      hpath, hsame]

end Replica.Disk
