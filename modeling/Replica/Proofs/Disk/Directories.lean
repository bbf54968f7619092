import Mathlib.Data.List.Basic
import Replica.Disk.Directory
import Replica.Proofs.Disk.Change

/-!
# Directories that are made

* **`Grows`**: the same tree with more directories;
* `makeDir_eq_ok`: what making one directory does;
* **`WellFormed.makeDirs`**, **`WellFormed.ensureDir`**, **`WellFormed.ensureParentDir`**: whatever is
  made on the way, nothing else changes, also where something fails in the middle;
* **`ensureDir_eq_ok_iff`**, **`ensureParentDir_eq_ok_iff`**: a directory, or the directory for a path,
  could be made if it is there afterwards;
* `MadeUpTo`: directories were made for a path, the last of them where the path leads;
* **`isDir_ensureParentDir`**: the directories that a path without `..` lacks are made where nothing
  was, so that the path does not lead to a directory for that.
-/

namespace Replica.Disk

variable {d d' d'' : Disk} {dir p : Place} {path par name : String} {slash : Bool} {e : Entry}

/-! ## More directories -/

/-- **The same tree with more directories.** -/
structure Grows (d d' : Disk) : Prop where
  base : d.SameBase d'
  files : d'.files = d.files
  get?_cases : ∀ p, d'.get? p = d.get? p ∨ d.get? p = none ∧ d'.get? p = some .directory

namespace Grows

theorem refl (d : Disk) : d.Grows d := ⟨.refl d, rfl, fun _ => .inl rfl⟩

theorem trans (h : d.Grows d') (h' : d'.Grows d'') : d.Grows d'' := by
  refine ⟨h.base.trans h'.base, h'.files.trans h.files, fun p => ?_⟩
  rcases h'.get?_cases p with hp | ⟨hn, hp⟩
  · rw [hp]
    exact h.get?_cases p
  · rcases h.get?_cases p with hq | ⟨hq, -⟩
    · exact .inr ⟨hq ▸ hn, hp⟩
    · exact .inr ⟨hq, hp⟩

theorem get?_eq (h : d.Grows d') (hp : d.get? p = some e) : d'.get? p = some e := by
  rcases h.get?_cases p with hq | ⟨hn, -⟩
  · rw [hq, hp]
  · rw [hn] at hp
    cases hp

theorem keepsWays (h : d.Grows d') : d.KeepsWays d' := fun _ _ _ => h.get?_eq

theorem get?_eq_none (h : d.Grows d') (hp : d'.get? p = none) : d.get? p = none := by
  cases hq : d.get? p with
  | none => rfl
  | some e =>
    rw [h.get?_eq hq] at hp
    cases hp

end Grows

/-! ## One directory -/

theorem makeDir_eq_ok :
    d.makeDir path = .ok d' ↔
      ∃ dir name slash, d.locate path = .ok (.entry dir name slash) ∧ isTooLong name = false ∧
        d.get? (dir ++ [name]) = none ∧ d' = d.put (dir ++ [name]) .directory := by
  constructor
  · intro h
    rw [makeDir] at h
    split at h
    · cases h
    · cases h
    · cases h
    · rename_i dir name slash hloc
      rw [addEntry] at h
      split at h
      · cases h
      · rename_i hl
        split at h
        · cases h
        · rename_i hn
          exact ⟨dir, name, slash, hloc, by simpa using hl, by simpa using hn,
            (Except.ok.inj h).symm⟩
  · rintro ⟨dir, name, slash, hloc, hl, hn, rfl⟩
    simp [makeDir, addEntry, hloc, hl, hn]

theorem WellFormed.makeDir (hd : d.WellFormed) (h : d.makeDir path = .ok d') :
    d'.WellFormed ∧ d.Grows d' := by
  obtain ⟨dir, name, slash, hloc, hl, hn, rfl⟩ := makeDir_eq_ok.1 h
  obtain ⟨hdir, hname⟩ := hd.of_locate hloc
  refine ⟨hd.put hdir (by simp [hn]) hname fun _ => nofun, ⟨rfl, rfl, rfl, rfl⟩, rfl, fun p => ?_⟩
  rw [get?_put _ (by simp)]
  by_cases hp : p = dir ++ [name]
  · right
    rw [if_pos hp, hp]
    exact ⟨hn, rfl⟩
  · left
    rw [if_neg hp]

theorem leads_of_makeDir (h : d.makeDir path = .ok d') :
    ∃ dir name slash, d.locate path = .ok (.entry dir name slash) ∧
      d.get? (dir ++ [name]) = none ∧
      (∀ q, d'.get? q = if q = dir ++ [name] then some .directory else d.get? q) ∧
      ∃ left, d'.Leads path (Path.parts path) left (.place (dir ++ [name])) := by
  obtain ⟨dir, name, slash, hloc, hl, hn, rfl⟩ := makeDir_eq_ok.1 h
  have hput : ∀ q, (d.put (dir ++ [name]) .directory).get? q =
      if q = dir ++ [name] then some .directory else d.get? q := fun q => get?_put _ (by simp)
  obtain ⟨-, hdot, hup, -, init, left, hinit, hleads⟩ := locate_eq_entry_iff.1 hloc
  refine ⟨dir, name, slash, hloc, hn, hput, left, ?_⟩
  rw [hinit]
  refine (hleads.mono (keepsWays_put (by simp) hn _) ⟨rfl, rfl, rfl, rfl⟩).append ?_
  exact .enter ⟨hdot, hup, hl⟩ (by rw [hput, if_pos rfl]) .nil

theorem makeDirOrFind_cases (d : Disk) (path : String) :
    d.makeDir path = .ok (d.makeDirOrFind path).1 ∨
      (d.makeDirOrFind path).1 = d ∧ ((d.makeDirOrFind path).2 = .ok () → d.isDir path = true) := by
  rw [makeDirOrFind]
  split
  · left
    assumption
  · right
    split <;> simp_all

theorem WellFormed.makeDirOrFind (hd : d.WellFormed) (path : String) :
    (d.makeDirOrFind path).1.WellFormed ∧ d.Grows (d.makeDirOrFind path).1 := by
  rcases makeDirOrFind_cases d path with h | ⟨h, -⟩
  · exact hd.makeDir h
  · rw [h]
    exact ⟨hd, .refl d⟩

/-! ## All that are missing -/

/-- What making a list of directories does: nothing; or the first one is made or found, possibly
after the others have been made. -/
theorem makeDirs_cons (d : Disk) (path : String) (above : List String) :
    d.makeDirs (path :: above) = (d, .ok ()) ∧ path = "" ∨
      d.makeDirs (path :: above) = d.makeDirOrFind path ∨
      d.makeDir path = .error .noEntry ∧
        ((d.makeDirs above).2 = .ok () ∧
            d.makeDirs (path :: above) = (d.makeDirs above).1.makeDirOrFind path ∨
          ∃ e, (d.makeDirs above).2 = .error e ∧
            d.makeDirs (path :: above) = ((d.makeDirs above).1, .error e)) := by
  rw [makeDirs]
  split
  · rename_i he
    exact .inl ⟨rfl, String.isEmpty_iff.1 he⟩
  · right
    split
    · rename_i hm
      right
      refine ⟨hm, ?_⟩
      split
      · rename_i h
        rw [h]
        exact .inl ⟨rfl, rfl⟩
      · rename_i e h
        rw [h]
        exact .inr ⟨e, rfl, rfl⟩
    · exact .inl rfl

theorem WellFormed.makeDirs (hd : d.WellFormed) (paths : List String) :
    (d.makeDirs paths).1.WellFormed ∧ d.Grows (d.makeDirs paths).1 := by
  induction paths with
  | nil => exact ⟨hd, .refl d⟩
  | cons path above ih =>
    rcases makeDirs_cons d path above with ⟨h, -⟩ | h | ⟨-, ⟨-, h⟩ | ⟨e, -, h⟩⟩
    · rw [h]
      exact ⟨hd, .refl d⟩
    · rw [h]
      exact hd.makeDirOrFind path
    · obtain ⟨hd', hg'⟩ := ih.1.makeDirOrFind path
      rw [h]
      exact ⟨hd', ih.2.trans hg'⟩
    · rw [h]
      exact ih

theorem isDir_makeDirOrFind (hd : d.WellFormed) (hok : (d.makeDirOrFind path).2 = .ok ()) :
    (d.makeDirOrFind path).1.isDir path = true := by
  rcases makeDirOrFind_cases d path with h | ⟨h, hdir⟩
  · obtain ⟨dir, name, slash, hloc, -, -, left, hl⟩ := leads_of_makeDir h
    exact (isDir_iff (hd.makeDirOrFind path).1).2 ⟨(locate_eq_entry_iff.1 hloc).1, left, _, hl⟩
  · rw [h]
    exact hdir hok

theorem makeDirOrFind_eq_ok (h : (d.makeDirOrFind path).1.isDir path = true) :
    (d.makeDirOrFind path).2 = .ok () := by
  rw [makeDirOrFind] at h ⊢
  split
  · rfl
  · rename_i e he
    simp only [he] at h
    split
    · rfl
    · rename_i hnot
      rw [if_neg hnot] at h
      exact absurd h hnot

theorem isDir_makeDirs (hd : d.WellFormed) {above : List String} (hne : path ≠ "")
    (hok : (d.makeDirs (path :: above)).2 = .ok ()) :
    (d.makeDirs (path :: above)).1.isDir path = true := by
  rcases makeDirs_cons d path above with ⟨-, h⟩ | h | ⟨-, ⟨-, h⟩ | ⟨e, -, h⟩⟩
  · exact absurd h hne
  · rw [h] at hok ⊢
    exact isDir_makeDirOrFind hd hok
  · rw [h] at hok ⊢
    exact isDir_makeDirOrFind (hd.makeDirs above).1 hok
  · rw [h] at hok
    cases hok

/-- **Paths that system calls accept.** -/
theorem check_eq_ok_iff :
    check path = .ok () ↔ '\x00' ∉ path.toList ∧ path ≠ "" ∧ path.utf8ByteSize < maxPath := by
  rw [check]
  simp only [List.contains_iff_mem, String.isEmpty_iff]
  split
  · simp [*]
  · split
    · simp [*]
    · split
      · simp [*]
      · simp [*]
        omega

theorem check_of_append {a b : String} (h : check (a ++ b) = .ok ()) :
    (a ≠ "" → check a = .ok ()) ∧ (b ≠ "" → check b = .ok ()) := by
  obtain ⟨hnul, -, hlen⟩ := check_eq_ok_iff.1 h
  rw [String.toList_append, List.mem_append, not_or] at hnul
  rw [String.utf8ByteSize_append] at hlen
  exact ⟨fun hne => check_eq_ok_iff.2 ⟨hnul.1, hne, by omega⟩,
    fun hne => check_eq_ok_iff.2 ⟨hnul.2, hne, by omega⟩⟩

theorem check_of_parent? (hpar : Path.parent? path = some par) (hne : par ≠ "")
    (hc : check path = .ok ()) : check par = .ok () := by
  obtain ⟨rest, hrest⟩ := Path.prefix_of_parent? hpar
  have hpath : path = par ++ String.ofList rest := by
    rw [← String.toList_inj, String.toList_append, String.toList_ofList, hrest]
  exact (check_of_append (hpath ▸ hc)).1 hne

theorem PassesFrom.before {lost left : Nat} {here : Place} {steps rest : List String} {spot : Spot}
    (h : d.PassesFrom lost here (steps ++ rest) left spot) :
    ∃ mid spot', d.PassesFrom lost here steps mid spot' := by
  induction steps generalizing lost here with
  | nil =>
    cases lost with
    | zero => exact ⟨_, _, .tree .nil⟩
    | succ lost => exact ⟨_, _, .stay⟩
  | cons step steps ih =>
    cases h with
    | tree h =>
      obtain ⟨mid, dir, h, -⟩ := passes_append_iff.1 h
      exact ⟨mid, _, .tree h⟩
    | dot h => exact (ih h).imp fun _ ⟨spot', h⟩ => ⟨spot', .dot h⟩
    | up h => exact (ih h).imp fun _ ⟨spot', h⟩ => ⟨spot', .up h⟩

theorem WellFormed.isDir_of_parent? (hd : d.WellFormed) (hpar : Path.parent? path = some par)
    (hne : par ≠ "") (h : d.isDir path = true) : d.isDir par = true := by
  obtain ⟨hc, left, spot, hl⟩ := (isDir_iff hd).1 h
  obtain ⟨dots, last, rest, hparts, hdots, -⟩ := Path.parts_of_parent? hpar
  rw [hparts, List.append_assoc] at hl
  obtain ⟨mid, spot', hl'⟩ := PassesFrom.before hl
  exact (isDir_iff hd).2 ⟨check_of_parent? hpar hne hc, mid, spot',
    (leads_congr (Path.isAbsolute_of_parent? hpar)).2 hl'⟩

/-- **A directory could be made**, with what it lacked above it, if and only if it is there
afterwards. -/
theorem makeDirs_ancestorsUpTo_eq_ok_iff (hd : d.WellFormed) (limit : Nat) (path : String) :
    (d.makeDirs (Path.ancestorsUpTo limit path)).2 = .ok () ↔
      path ≠ "" → (d.makeDirs (Path.ancestorsUpTo limit path)).1.isDir path = true := by
  -- what is above the path, and that it could be made if its first directory is there afterwards
  obtain ⟨above, hlist, habove⟩ : ∃ above, Path.ancestorsUpTo limit path = path :: above ∧
      (above = [] ∨ ∃ par, Path.parent? path = some par ∧
        ((par ≠ "" → (d.makeDirs above).1.isDir par = true) → (d.makeDirs above).2 = .ok ())) := by
    cases limit with
    | zero => exact ⟨[], rfl, .inl rfl⟩
    | succ limit =>
      rw [Path.ancestorsUpTo]
      split
      · rename_i par hpar
        exact ⟨_, rfl, .inr ⟨par, hpar, (makeDirs_ancestorsUpTo_eq_ok_iff hd limit par).2⟩⟩
      · exact ⟨[], rfl, .inl rfl⟩
  rw [hlist]
  refine ⟨fun hok hne => isDir_makeDirs hd hne hok, fun h => ?_⟩
  by_cases hne : path = ""
  · rw [makeDirs, if_pos (by rw [hne]; rfl)]
  rcases makeDirs_cons d path above with ⟨-, he⟩ | he | ⟨hm, ⟨hok, he⟩ | ⟨e, herr, he⟩⟩
  · exact absurd he hne
  · rw [he] at h ⊢
    exact makeDirOrFind_eq_ok (h hne)
  · rw [he] at h ⊢
    exact makeDirOrFind_eq_ok (h hne)
  · rw [he] at h
    rcases habove with rfl | ⟨par, hpar, hiff⟩
    · cases herr
    · have hdir := fun hp => (hd.makeDirs above).1.isDir_of_parent? hpar hp (h hne)
      rw [hiff hdir] at herr
      cases herr

/-! ## A directory, and the directory for a path -/

theorem ensureDir_of_isDir (h : d.isDir path = true) : d.ensureDir path = (d, .ok ()) := by
  rw [ensureDir, if_pos h]

theorem ensureDir_of_not_isDir (h : d.isDir path = false) :
    d.ensureDir path = ((d.makeDirs (Path.ancestors path)).1,
      (d.makeDirs (Path.ancestors path)).2.mapError (.createDir path)) := by
  rw [ensureDir, if_neg (by simp [h])]

theorem WellFormed.ensureDir (hd : d.WellFormed) (path : String) :
    (d.ensureDir path).1.WellFormed ∧ d.Grows (d.ensureDir path).1 := by
  cases hdir : d.isDir path with
  | true =>
    rw [ensureDir_of_isDir hdir]
    exact ⟨hd, .refl d⟩
  | false =>
    rw [ensureDir_of_not_isDir hdir]
    exact hd.makeDirs _

/-- **A directory can be made** if and only if it is there afterwards. -/
theorem ensureDir_eq_ok_iff (hd : d.WellFormed) (hne : path ≠ "") :
    (d.ensureDir path).2 = .ok () ↔ (d.ensureDir path).1.isDir path = true := by
  cases hdir : d.isDir path with
  | true =>
    rw [ensureDir_of_isDir hdir]
    exact iff_of_true rfl hdir
  | false =>
    rw [ensureDir_of_not_isDir hdir, mapError_eq_ok, Path.ancestors,
      makeDirs_ancestorsUpTo_eq_ok_iff hd]
    exact forall_prop_of_true hne

theorem ensureParentDir_of_parent? (hpar : Path.parent? path = some par) (hne : par ≠ "") :
    d.ensureParentDir path = d.ensureDir par := by
  simp only [ensureParentDir, hpar, String.isEmpty_iff, hne, if_false]

theorem ensureParentDir_of_no_parent (h : ∀ par, Path.parent? path = some par → par = "") :
    d.ensureParentDir path = (d, .ok ()) := by
  rcases hpar : Path.parent? path with - | par
  · simp only [ensureParentDir, hpar]
  · simp [ensureParentDir, hpar, h par hpar]

theorem parent?_cases (path : String) :
    (∀ par, Path.parent? path = some par → par = "") ∨
      ∃ par, Path.parent? path = some par ∧ par ≠ "" := by
  rcases hpar : Path.parent? path with - | par
  · exact .inl nofun
  · by_cases hne : par = ""
    · exact .inl fun par' h => Option.some.inj h ▸ hne
    · exact .inr ⟨par, rfl, hne⟩

/-- **The directory for a path** is there, or there is none to make; or it is made now. -/
theorem ensureParentDir_cases (d : Disk) (path : String) :
    (d.ensureParentDir path = (d, .ok ()) ∧
        ∀ par, Path.parent? path = some par → par ≠ "" → d.isDir par = true) ∨
      ∃ par, Path.parent? path = some par ∧ par ≠ "" ∧ d.isDir par = false ∧
        d.ensureParentDir path = ((d.makeDirs (Path.ancestors par)).1,
          (d.makeDirs (Path.ancestors par)).2.mapError (.createDir par)) := by
  rcases parent?_cases path with hnone | ⟨par, hpar, hne⟩
  · exact .inl ⟨ensureParentDir_of_no_parent hnone, fun par hpar hne => absurd (hnone par hpar) hne⟩
  · rw [ensureParentDir_of_parent? hpar hne]
    cases hdir : d.isDir par with
    | true =>
      refine .inl ⟨ensureDir_of_isDir hdir, fun par' hpar' _ => ?_⟩
      rwa [← Option.some.inj (hpar.symm.trans hpar')]
    | false => exact .inr ⟨par, hpar, hne, hdir, ensureDir_of_not_isDir hdir⟩

theorem WellFormed.ensureParentDir (hd : d.WellFormed) (path : String) :
    (d.ensureParentDir path).1.WellFormed ∧ d.Grows (d.ensureParentDir path).1 := by
  rcases parent?_cases path with hnone | ⟨par, hpar, hne⟩
  · rw [ensureParentDir_of_no_parent hnone]
    exact ⟨hd, .refl d⟩
  · rw [ensureParentDir_of_parent? hpar hne]
    exact hd.ensureDir par

/-- **The directory for a path can be made** if and only if it is there afterwards, or none is
needed. -/
theorem ensureParentDir_eq_ok_iff (hd : d.WellFormed) (path : String) :
    (d.ensureParentDir path).2 = .ok () ↔
      ∀ par, Path.parent? path = some par → par ≠ "" →
        (d.ensureParentDir path).1.isDir par = true := by
  rcases parent?_cases path with hnone | ⟨par, hpar, hne⟩
  · rw [ensureParentDir_of_no_parent hnone]
    exact iff_of_true rfl fun par hpar hne => absurd (hnone par hpar) hne
  · rw [ensureParentDir_of_parent? hpar hne, ensureDir_eq_ok_iff hd hne, hpar]
    exact ⟨fun hdir par' hpar' _ => Option.some.inj hpar' ▸ hdir, fun h => h par rfl hne⟩

/-! ## Where they are made -/

/-- **Directories were made for a path**, the last of them where the path leads now. -/
structure MadeUpTo (d d' : Disk) (path : String) (p : Place) : Prop where
  leads : ∃ left, d'.Leads path (Path.parts path) left (.place p)
  new : d.get? p = none
  above : ∀ q, d.get? q = none → d'.get? q ≠ none → q <+: p

namespace MadeUpTo

theorem get?_below (h : d.MadeUpTo d' par p) (hd : d.WellFormed) (name : String) :
    d'.get? (p ++ [name]) = none := by
  by_contra hn
  have hbefore : d.get? (p ++ [name]) = none := by
    cases hq : d.get? (p ++ [name]) with
    | none => rfl
    | some e =>
      have := hd.above hq
      rw [h.new] at this
      cases this
  have := (h.above _ hbefore hn).length_le
  rw [List.length_append, List.length_singleton] at this
  omega

theorem isDir_eq_false (h : d.MadeUpTo d' par p) (hd : d.WellFormed) (hd' : d'.WellFormed)
    (hpar : Path.parent? path = some par) (hne : par ≠ "") (hup : ".." ∉ Path.parts path) :
    d'.isDir path = false := by
  obtain ⟨dots, last, rest, hparts, hdots, -, hdot⟩ := Path.parts_of_parent? hpar
  rw [← Bool.not_eq_true, isDir_iff hd', hparts]
  rintro ⟨-, left, spot, hl⟩
  obtain ⟨mid, hlead⟩ := h.leads
  have hlead' : d'.Leads path (Path.parts par ++ dots) mid (.place p) :=
    (leads_append_dots_iff hdots).2 ((leads_congr (Path.isAbsolute_of_parent? hpar)).1 hlead)
  obtain ⟨_, _, -, hpass⟩ := hlead'.of_append hl
  cases hpass with
  | dot => exact hne (hdot rfl)
  | up => exact hup (by simp [hparts])
  | enter _ hget =>
    rw [h.get?_below hd] at hget
    cases hget
  | follow _ hget =>
    rw [h.get?_below hd] at hget
    cases hget

end MadeUpTo

theorem madeUpTo_of_makeDir (hg : d.Grows d') (h : d'.makeDir path = .ok d'')
    (habove : ∀ dir name slash, d'.locate path = .ok (.entry dir name slash) →
      ∀ q, d.get? q = none → d'.get? q ≠ none → q <+: dir) :
    ∃ p, d.MadeUpTo d'' path p := by
  obtain ⟨dir, name, slash, hloc, hn, hget, hleads⟩ := leads_of_makeDir h
  refine ⟨dir ++ [name], hleads, hg.get?_eq_none hn, fun q hq hq' => ?_⟩
  rw [hget] at hq'
  split at hq'
  · rename_i he
    exact he ▸ List.prefix_rfl
  · exact (habove dir name slash hloc q hq hq').trans (List.prefix_append _ _)

/-- **Where directories are made** for a path without steps up: nowhere if it leads to one, else
where nothing was. -/
theorem madeUpTo_makeDirs (hd : d.WellFormed) (limit : Nat) (path : String)
    (hup : ".." ∉ Path.parts path)
    (hok : (d.makeDirs (Path.ancestorsUpTo limit path)).2 = .ok ()) :
    (d.makeDirs (Path.ancestorsUpTo limit path)).1 = d ∨
      path ≠ "" ∧ ∃ p, d.MadeUpTo (d.makeDirs (Path.ancestorsUpTo limit path)).1 path p := by
  -- what is above the path, and what was made for it
  obtain ⟨above, hlist, habove⟩ : ∃ above, Path.ancestorsUpTo limit path = path :: above ∧
      ((d.makeDirs above).2 = .ok () → (d.makeDirs above).1 = d ∨
        ∃ par, Path.parent? path = some par ∧ par ≠ "" ∧
          ∃ p, d.MadeUpTo (d.makeDirs above).1 par p) := by
    cases limit with
    | zero => exact ⟨[], rfl, fun _ => .inl rfl⟩
    | succ limit =>
      rw [Path.ancestorsUpTo]
      split
      · rename_i par hpar
        refine ⟨_, rfl, fun h => ?_⟩
        obtain ⟨dots, last, rest, hparts, -⟩ := Path.parts_of_parent? hpar
        have hup' : ".." ∉ Path.parts par := fun h => hup (by simp [hparts, h])
        exact (madeUpTo_makeDirs hd limit par hup' h).imp_right fun h => ⟨par, hpar, h⟩
      · exact ⟨[], rfl, fun _ => .inl rfl⟩
  rw [hlist] at hok ⊢
  by_cases hne : path = ""
  · left
    rw [makeDirs, if_pos (by rw [hne]; rfl)]
  have hfirst : ∀ h : d.makeDirs (path :: above) = d.makeDirOrFind path,
      (d.makeDirs (path :: above)).1 = d ∨
        path ≠ "" ∧ ∃ p, d.MadeUpTo (d.makeDirs (path :: above)).1 path p := by
    intro h
    rw [h]
    rcases makeDirOrFind_cases d path with hm | ⟨hm, -⟩
    · exact .inr ⟨hne, madeUpTo_of_makeDir (.refl d) hm fun _ _ _ _ q hq hq' => absurd hq hq'⟩
    · exact .inl hm
  rcases makeDirs_cons d path above with ⟨-, h⟩ | h | ⟨hnone, ⟨hok', h⟩ | ⟨e, -, h⟩⟩
  · exact absurd h hne
  · exact hfirst h
  · rcases habove hok' with hsame | ⟨par, hpar, hparne, p, hmade⟩
    · exact hfirst (h.trans (by rw [hsame]))
    · have hd' := hd.makeDirs above
      rw [h] at hok ⊢
      rcases makeDirOrFind_cases (d.makeDirs above).1 path with hm | ⟨-, hm⟩
      · refine .inr ⟨hne, madeUpTo_of_makeDir hd'.2 hm fun dir name slash hloc q hq hq' => ?_⟩
        obtain ⟨left, hl⟩ := leads_parent? hpar hloc
        obtain ⟨left', hl'⟩ := hmade.leads
        rw [hl.unique hl']
        exact hmade.above q hq hq'
      · -- a name in a directory that was just made is not there
        have := hmade.isDir_eq_false hd hd'.1 hpar hparne hup
        rw [hm hok] at this
        cases this
  · rw [h] at hok
    cases hok

theorem madeUpTo_ensureParentDir (hd : d.WellFormed) (hup : ".." ∉ Path.parts path)
    (hok : (d.ensureParentDir path).2 = .ok ()) :
    (d.ensureParentDir path).1 = d ∨ ∃ par, Path.parent? path = some par ∧ par ≠ "" ∧
      ∃ p, d.MadeUpTo (d.ensureParentDir path).1 par p := by
  rcases ensureParentDir_cases d path with ⟨h, -⟩ | ⟨par, hpar, -, -, h⟩
  · rw [h]
    exact .inl rfl
  · rw [h] at hok ⊢
    obtain ⟨dots, last, rest, hparts, -⟩ := Path.parts_of_parent? hpar
    have hup' : ".." ∉ Path.parts par := fun h => hup (by simp [hparts, h])
    exact (madeUpTo_makeDirs hd _ par hup' (mapError_eq_ok.1 hok)).imp_right fun h => ⟨par, hpar, h⟩

/-- **Making the directories that a path lacks** does not make it lead to a directory, unless it
has a part `..`. -/
theorem isDir_ensureParentDir (hd : d.WellFormed) (hup : ".." ∉ Path.parts path)
    (hok : (d.ensureParentDir path).2 = .ok ()) :
    (d.ensureParentDir path).1.isDir path = d.isDir path := by
  have hgrows := hd.ensureParentDir path
  cases hdir : d.isDir path with
  | true => exact hd.isDir_mono hgrows.1 hgrows.2.keepsWays hgrows.2.base hdir
  | false =>
    rcases madeUpTo_ensureParentDir hd hup hok with h | ⟨par, hpar, hne, p, h⟩
    · rw [h, hdir]
    · exact h.isDir_eq_false hd hgrows.1 hpar hne hup

end Replica.Disk
