import Mathlib.Data.List.Basic
import Replica.Proofs.Disk.Directories

/-!
# A file in the place of a link

Where a file takes the place of a symbolic link, steps that led through the link stop there. All
other steps pass as they did.

* `Covers`: a file stands where no directory was, and all else is the same;
* `LeadsOn`: the link there leads on to a directory;
* **`Passes.of_covers`**, `Leads.of_covers`: steps pass, or they stop at the file;
* **`Covers.makeDir_eq_error`**: what does not lead to a directory any more is not made again;
* **`resolve_eq_tooManyLinks`**: the path of a link that leads on leads to its directory, unless it
  goes through too many links before.
-/

namespace Replica.Disk

variable {d d' : Disk} {links left lost : Nat} {here dir p : Place} {spot : Spot}
  {path name last : String} {steps : List String}

/-! ## Trees that differ in a file -/

/-- **A file covers what was at a place**, which was no directory. All else is the same. -/
structure Covers (d d' : Disk) (p : Place) : Prop where
  base : d.SameBase d'
  get?_eq : ∀ q, q ≠ p → d'.get? q = d.get? q
  isFile : ∃ id, d'.get? p = some (.file id)
  notDirectory : d.get? p ≠ some .directory

/-- **A link leads on**: its target, with some steps behind it, leads to a directory. -/
def LeadsOn (d : Disk) (p : Place) : Prop :=
  ∃ target links rest left dir, d.get? p = some (.link target) ∧
    d.Passes links (start p.dropLast target) (Path.steps target ++ rest) left dir

theorem Covers.keepsWays (hc : d.Covers d' p) : d'.KeepsWays d := by
  intro q e he hq
  by_cases hqp : q = p
  · obtain ⟨id, hid⟩ := hc.isFile
    rw [hqp, hid] at hq
    exact absurd (Option.some.inj hq).symm (he id)
  · rwa [hc.get?_eq q hqp] at hq

/-- **Steps pass as they did, or they stop** at the file that covers a link. -/
theorem Passes.of_covers (h : d.Passes links here steps left dir) (hc : d.Covers d' p) :
    d'.Passes links here steps left dir ∨
      d.LeadsOn p ∧ ∀ missing rest, rest ≠ [] →
        d'.walk missing links here (steps ++ rest) = .error .notDirectory := by
  induction h with
  | nil => exact .inl .nil
  | dot _ ih =>
    refine ih.imp .dot (.imp_right fun hw missing rest hr => ?_)
    rw [List.cons_append, walk_dot, hw missing rest hr]
  | up _ ih =>
    refine ih.imp .up (.imp_right fun hw missing rest hr => ?_)
    rw [List.cons_append, walk_up, hw missing rest hr]
  | @enter _ _ here _ step _ hs hget _ ih =>
    have hget' : d'.get? (here ++ [step]) = some .directory := by
      rw [hc.get?_eq _ fun he => hc.notDirectory (he ▸ hget), hget]
    refine ih.imp (.enter hs hget') (.imp_right fun hw missing rest hr => ?_)
    simp only [List.cons_append, walk_name hs, hget', hw missing rest hr]
  | @follow links left here dir step target rest hs hget h ih =>
    by_cases hp : here ++ [step] = p
    · subst hp
      obtain ⟨id, hfile⟩ := hc.isFile
      refine .inr ⟨⟨target, links, rest, left, dir, hget, ?_⟩, fun missing rest' hr => ?_⟩
      · rwa [List.dropLast_concat]
      · simp [walk_name hs, hfile, hr]
    · have hget' : d'.get? (here ++ [step]) = some (.link target) := by
        rw [hc.get?_eq _ hp, hget]
      refine ih.imp (.follow hs hget') (.imp_right fun hw missing rest' hr => ?_)
      simp only [List.append_assoc] at hw
      simp only [List.cons_append, walk_name hs, hget', hw missing rest' hr]

theorem PassesFrom.of_covers (h : d.PassesFrom lost here steps left spot) (hc : d.Covers d' p) :
    d'.PassesFrom lost here steps left spot ∨
      d.LeadsOn p ∧ ∀ missing rest, rest ≠ [] →
        d'.walkFrom missing lost here (steps ++ rest) = .error .notDirectory := by
  induction h with
  | tree h =>
    refine (h.of_covers hc).imp .tree (.imp_right fun hw missing rest hr => ?_)
    rw [walkFrom_zero, hw missing rest hr]
    rfl
  | stay => exact .inl .stay
  | dot _ ih =>
    refine ih.imp .dot (.imp_right fun hw missing rest hr => ?_)
    rw [List.cons_append, walkFrom_dot, hw missing rest hr]
  | up _ ih =>
    refine ih.imp .up (.imp_right fun hw missing rest hr => ?_)
    rw [List.cons_append, walkFrom_up, hw missing rest hr]

theorem Leads.of_covers (h : d.Leads path steps left spot) (hc : d.Covers d' p) :
    d'.Leads path steps left spot ∨
      d.LeadsOn p ∧ ∀ missing rest, rest ≠ [] →
        d'.walkPath missing path (steps ++ rest) = .error .notDirectory := by
  simp only [Leads, walkPath, hc.base.lost, hc.base.workingDir]
  exact PassesFrom.of_covers h hc

theorem Covers.isDir_or_leadsOn (hc : d.Covers d' p) (hd : d.WellFormed) (hd' : d'.WellFormed)
    (h : d.isDir path = true) : d'.isDir path = true ∨ d.LeadsOn p := by
  obtain ⟨hcheck, left, spot, hl⟩ := (isDir_iff hd).1 h
  exact (hl.of_covers hc).imp (fun hl' => (isDir_iff hd').2 ⟨hcheck, left, spot, hl'⟩) And.left

/-! ## Directories that are gone -/

theorem PassesFrom.of_append (h : d.PassesFrom lost here (steps ++ [last]) left spot) :
    ∃ mid spot', d.PassesFrom lost here steps mid spot' ∧
      (last = "." ∨ last = ".." ∨ ∃ q, spot' = .place q ∧ d.get? (q ++ [last]) ≠ none) := by
  induction steps generalizing lost here with
  | nil =>
    cases h with
    | tree h =>
      refine ⟨_, _, .tree .nil, ?_⟩
      cases h with
      | dot => exact .inl rfl
      | up => exact .inr (.inl rfl)
      | enter _ hget => exact .inr (.inr ⟨here, rfl, by simp [hget]⟩)
      | follow _ hget => exact .inr (.inr ⟨here, rfl, by simp [hget]⟩)
    | dot => exact ⟨_, _, .stay, .inl rfl⟩
    | up => exact ⟨_, _, .stay, .inr (.inl rfl)⟩
  | cons step rest ih =>
    cases h with
    | tree h =>
      obtain ⟨mid, q, h, hlast⟩ := passes_append_iff.1 h
      refine ⟨mid, .place q, .tree h, ?_⟩
      cases hlast with
      | dot => exact .inl rfl
      | up => exact .inr (.inl rfl)
      | enter _ hget => exact .inr (.inr ⟨q, rfl, by simp [hget]⟩)
      | follow _ hget => exact .inr (.inr ⟨q, rfl, by simp [hget]⟩)
    | dot h =>
      obtain ⟨mid, spot', h, hlast⟩ := ih h
      exact ⟨mid, spot', .dot h, hlast⟩
    | up h =>
      obtain ⟨mid, spot', h, hlast⟩ := ih h
      exact ⟨mid, spot', .up h, hlast⟩

theorem Covers.makeDir_eq_error (hc : d.Covers d' p) (hd : d.WellFormed) (hd' : d'.WellFormed)
    (h : d.isDir path = true) (h' : d'.isDir path = false) :
    ∃ e, d'.makeDir path = .error e ∧ e ≠ .noEntry := by
  obtain ⟨hcheck, left, spot, hl⟩ := (isDir_iff hd).1 h
  have hnot : ∀ left spot, ¬d'.Leads path (Path.parts path) left spot := by
    intro left spot hl'
    rw [(isDir_iff hd').2 ⟨hcheck, left, spot, hl'⟩] at h'
    cases h'
  rcases List.eq_nil_or_concat' (Path.parts path) with hnil | ⟨init, last, hparts⟩
  · -- where a path begins there is a directory
    rw [hnil] at hnot
    exfalso
    cases hlost : if Path.isAbsolute path then 0 else d'.lost with
    | zero => exact hnot _ _ (by rw [Leads, hlost]; exact .tree .nil)
    | succ lost => exact hnot _ _ (by rw [Leads, hlost]; exact .stay)
  · rw [hparts] at hl hnot
    obtain ⟨mid, spot', hinit, hlast⟩ := PassesFrom.of_append hl
    rcases Leads.of_covers hinit hc with hinit' | ⟨-, hw⟩
    · have hw : d'.walkPath false path (init ++ ["."]) = .ok spot' :=
        ((leads_append_dots_iff fun s hs => List.mem_singleton.1 hs).2 hinit').walkFrom_eq
      by_cases hdots : last = "." ∨ last = ".."
      · refine ⟨.alreadyExists, ?_, by simp⟩
        simp [makeDir, locate, hcheck, hparts, hw, hdots]
      · obtain ⟨q, rfl, hq⟩ : ∃ q, spot' = .place q ∧ d.get? (q ++ [last]) ≠ none :=
          (hlast.resolve_left fun hd => hdots (.inl hd)).resolve_left fun hd => hdots (.inr hd)
        have hq' : (d'.get? (q ++ [last])).isSome = true := by
          by_cases hp : q ++ [last] = p
          · obtain ⟨id, hid⟩ := hc.isFile
            rw [hp, hid]
            rfl
          · rw [hc.get?_eq _ hp]
            exact Option.isSome_iff_ne_none.2 hq
        cases htoo : isTooLong last with
        | true =>
          refine ⟨.nameTooLong, ?_, by simp⟩
          simp [makeDir, locate, addEntry, hcheck, hparts, hw, hdots, htoo]
        | false =>
          refine ⟨.alreadyExists, ?_, by simp⟩
          simp [makeDir, locate, addEntry, hcheck, hparts, hw, hdots, htoo, hq']
    · refine ⟨.notDirectory, ?_, by simp⟩
      simp [makeDir, locate, hcheck, hparts, hw false ["."] (List.cons_ne_nil _ _)]

/-! ## Too many links -/

theorem Passes.of_links (h : d.Passes links here steps left dir) (fewer : Nat) :
    (∃ left', d.Passes fewer here steps left' dir) ∨
      ∀ missing rest, d.walk missing fewer here (steps ++ rest) = .error .tooManyLinks := by
  induction h generalizing fewer with
  | nil => exact .inl ⟨fewer, .nil⟩
  | dot _ ih =>
    refine (ih fewer).imp (fun ⟨left', h⟩ => ⟨left', .dot h⟩) fun hw missing rest => ?_
    rw [List.cons_append, walk_dot, hw missing rest]
  | up _ ih =>
    refine (ih fewer).imp (fun ⟨left', h⟩ => ⟨left', .up h⟩) fun hw missing rest => ?_
    rw [List.cons_append, walk_up, hw missing rest]
  | enter hs hget _ ih =>
    refine (ih fewer).imp (fun ⟨left', h⟩ => ⟨left', .enter hs hget h⟩) fun hw missing rest => ?_
    simp only [List.cons_append, walk_name hs, hget, hw missing rest]
  | follow hs hget _ ih =>
    cases fewer with
    | zero => exact .inr fun missing rest => by simp only [List.cons_append, walk_name hs, hget]
    | succ fewer =>
      refine (ih fewer).imp (fun ⟨left', h⟩ => ⟨left', .follow hs hget h⟩) fun hw missing rest => ?_
      simp only [List.append_assoc] at hw
      simp only [List.cons_append, walk_name hs, hget, hw missing rest]

/-- **A path that names a link which leads on** leads to a directory, or through too many links. -/
theorem resolve_eq_tooManyLinks (hd : d.WellFormed) (hdir : d.isDir path = false)
    (hloc : d.locate path = .ok (.entry dir name false)) (hshort : isTooLong name = false)
    (hon : d.LeadsOn (dir ++ [name])) : d.resolve path = .error .tooManyLinks := by
  obtain ⟨hcheck, hdot, hup, hslash, init, left, hparts, hl⟩ := locate_eq_entry_iff.1 hloc
  obtain ⟨target, links, rest, _, _, hlink, hpass⟩ := hon
  obtain ⟨_, there, htarget, -⟩ := passes_append_iff.1 hpass
  rw [List.dropLast_concat] at htarget
  have hname : IsName name := ⟨hdot, hup, hshort⟩
  have hsteps := (Path.steps_eq_parts hslash.symm).trans hparts
  have hwalk : d.walk false left dir [name] = .error .tooManyLinks := by
    simp only [walk_name hname, hlink]
    cases left with
    | zero => rfl
    | succ left =>
      rcases htarget.of_links left with ⟨left', h⟩ | hw
      · -- enough links are left, so the path leads to a directory
        have hfollow : d.Passes (left + 1) dir [name] left' there :=
          .follow hname hlink (by rwa [List.append_nil])
        have hleads := hl.append hfollow
        rw [← hparts] at hleads
        rw [(isDir_iff hd).2 ⟨hcheck, _, _, hleads⟩] at hdir
        cases hdir
      · exact hw false []
  simp only [resolve, hcheck, hsteps, hl.walkPath_append, hwalk]
  rfl

end Replica.Disk
