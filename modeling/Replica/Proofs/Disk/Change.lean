import Mathlib.Data.List.Basic
import Mathlib.Data.List.Induction
import Replica.Proofs.Disk.WellFormed
import Replica.Proofs.Fallible

/-!
# Changes that keep a tree a tree

* `SameBase`: two disks with the same working directory, mounts and suffixes;
* **`Leads.mono`**, **`WellFormed.isDir_mono`**, **`locate_mono`**: where paths lead in a tree that
  keeps the directories and links of another one;
* **`WellFormed.put`**, `WellFormed.newFile`, `WellFormed.setContent`, **`WellFormed.prune`**,
  **`WellFormed.graft`**: the changes that system calls are made of;
* **`get?_graft`**: what is where after a part of the tree was moved.
-/

namespace Replica.Disk

variable {d d' d'' : Disk} {left : Nat} {dir p q : Place} {spot : Spot}
  {path name : String} {steps : List String} {slash : Bool} {e : Entry}

/-! ## What is not in the tree -/

/-- The same working directory, mounts and suffixes. -/
structure SameBase (d d' : Disk) : Prop where
  workingDir : d'.workingDir = d.workingDir
  lost : d'.lost = d.lost
  mounts : d'.mounts = d.mounts
  draw : d'.draw = d.draw

theorem SameBase.refl (d : Disk) : d.SameBase d := ⟨rfl, rfl, rfl, rfl⟩

theorem SameBase.symm (h : d.SameBase d') : d'.SameBase d :=
  ⟨h.workingDir.symm, h.lost.symm, h.mounts.symm, h.draw.symm⟩

theorem SameBase.trans (h : d.SameBase d') (h' : d'.SameBase d'') : d.SameBase d'' :=
  ⟨h'.workingDir.trans h.workingDir, h'.lost.trans h.lost, h'.mounts.trans h.mounts,
    h'.draw.trans h.draw⟩

theorem SameBase.liveDir (h : d.SameBase d') : d'.liveDir = d.liveDir := by
  rw [Disk.liveDir, Disk.liveDir, h.workingDir, h.lost]

/-! ## Paths in a tree with more in it -/

theorem PassesFrom.mono {lost : Nat} {here : Place} (h : d.PassesFrom lost here steps left spot)
    (hk : d.KeepsWays d') : d'.PassesFrom lost here steps left spot := by
  induction h with
  | tree h => exact .tree (h.mono hk)
  | stay => exact .stay
  | dot _ ih => exact .dot ih
  | up _ ih => exact .up ih

theorem Leads.mono (h : d.Leads path steps left spot) (hk : d.KeepsWays d') (hb : d.SameBase d') :
    d'.Leads path steps left spot := by
  rw [Leads, hb.lost, hb.workingDir]
  exact PassesFrom.mono h hk

theorem WellFormed.isDir_mono (hd : d.WellFormed) (hd' : d'.WellFormed) (hk : d.KeepsWays d')
    (hb : d.SameBase d') (h : d.isDir path = true) : d'.isDir path = true := by
  obtain ⟨hc, left, spot, hl⟩ := (isDir_iff hd).1 h
  exact (isDir_iff hd').2 ⟨hc, left, spot, hl.mono hk hb⟩

theorem locate_mono (hk : d.KeepsWays d') (hb : d.SameBase d')
    (h : d.locate path = .ok (.entry dir name slash)) :
    d'.locate path = .ok (.entry dir name slash) := by
  obtain ⟨hc, hdot, hup, hs, init, left, hp, hl⟩ := locate_eq_entry_iff.1 h
  exact locate_eq_entry_iff.2 ⟨hc, hdot, hup, hs, init, left, hp, hl.mono hk hb⟩

theorem keepsWays_put (hp : p ≠ []) (hn : d.get? p = none) (e : Entry) :
    d.KeepsWays (d.put p e) := by
  intro q e' _ hq
  rw [get?_put e hp, if_neg fun h : q = p => by rw [h, hn] at hq; cases hq]
  exact hq

/-! ## Single changes -/

theorem WellFormed.put (hd : d.WellFormed) (hdir : d.get? dir = some .directory)
    (hn : d.get? (dir ++ [name]) ≠ some .directory) (hname : IsEntryName name)
    (hid : ∀ id, e = .file id → id < d.files.length) : (d.put (dir ++ [name]) e).WellFormed := by
  have hget : ∀ q, (d.put (dir ++ [name]) e).get? q =
      if q = dir ++ [name] then some e else d.get? q := fun q => get?_put e (by simp)
  have hkeep : ∀ q, d.get? q = some .directory →
      (d.put (dir ++ [name]) e).get? q = some .directory := by
    intro q hq
    rw [hget, if_neg fun h : q = dir ++ [name] => hn (h ▸ hq)]
    exact hq
  refine ⟨fun {q n e'} h => ?_, fun {q n e'} h => ?_, fun {q id} h => ?_, hd.lost_le,
    hkeep _ hd.live, hd.suffixes⟩
  · rw [hget] at h
    split at h
    · rename_i he
      rw [(List.append_inj' he rfl).1]
      exact hkeep _ hdir
    · exact hkeep _ (hd.above h)
  · rw [hget] at h
    split at h
    · rename_i he
      have := (List.append_inj' he rfl).2
      simp only [List.cons.injEq, and_true] at this
      exact this ▸ hname
    · exact hd.named h
  · rw [hget] at h
    split at h
    · exact hid id (Option.some.inj h)
    · exact hd.numbered h

theorem WellFormed.put_root (hd : d.WellFormed) (hn : d.get? [name] ≠ some .directory)
    (hname : IsEntryName name) (hid : ∀ id, e = .file id → id < d.files.length) :
    (d.put [name] e).WellFormed :=
  hd.put get?_nil hn hname hid

/-- **Only what is where counts** for a tree, and that all its files are there. -/
theorem WellFormed.of_get? (hd : d.WellFormed) (hb : d.SameBase d')
    (hf : d.files.length ≤ d'.files.length) (h : ∀ q, d'.get? q = d.get? q) : d'.WellFormed where
  above h' := by
    rw [h] at h' ⊢
    exact hd.above h'
  named h' := hd.named ((h _).symm.trans h')
  numbered h' := Nat.lt_of_lt_of_le (hd.numbered ((h _).symm.trans h')) hf
  lost_le := by simpa only [hb.lost, hb.workingDir] using hd.lost_le
  live := by simpa only [h, hb.liveDir] using hd.live
  suffixes := by simpa only [hb.draw] using hd.suffixes

theorem WellFormed.newFile (hd : d.WellFormed) (mode : Nat) : (d.newFile mode).1.WellFormed :=
  hd.of_get? ⟨rfl, rfl, rfl, rfl⟩ (by simp [Disk.newFile]) fun _ => rfl

theorem WellFormed.setContent (hd : d.WellFormed) (id : Nat) (bs : Bytes) :
    (d.setContent id bs).WellFormed :=
  hd.of_get? ⟨rfl, rfl, rfl, rfl⟩ (by simp [Disk.setContent]) fun _ => rfl

theorem WellFormed.get?_eq_none (hd : d.WellFormed) (hp : d.get? p ≠ some .directory)
    (hq : p <+: q) (hne : q ≠ p) : d.get? q = none := by
  obtain ⟨rest, rfl⟩ := hq
  have hr : rest ≠ [] := fun h => hne (by rw [h, List.append_nil])
  clear hne
  induction rest using List.reverseRecOn with
  | nil => exact absurd rfl hr
  | append_singleton rest last ih =>
    rw [← List.append_assoc]
    refine Option.eq_none_iff_forall_ne_some.2 fun e he => ?_
    have habove := hd.above he
    by_cases h : rest = []
    · rw [h, List.append_nil] at habove
      exact hp habove
    · rw [ih h] at habove
      cases habove

theorem WellFormed.get?_prune (hd : d.WellFormed) (hp : d.get? p ≠ some .directory) :
    (d.prune p).get? q = if q = p then none else d.get? q := by
  have hne : p ≠ [] := fun h : p = [] => hp (h ▸ rfl)
  rw [Disk.get?_prune hne]
  by_cases hq : p <+: q
  · rw [if_pos (List.isPrefixOf_iff_prefix.2 hq)]
    split
    · rfl
    · rename_i h
      exact (hd.get?_eq_none hp hq h).symm
  · rw [if_neg (mt List.isPrefixOf_iff_prefix.1 hq),
      if_neg fun h : q = p => hq (h ▸ List.prefix_rfl)]

theorem WellFormed.keepsEntries_prune (hd : d.WellFormed) (hp : d.get? p ≠ some .directory) :
    (d.prune p).KeepsEntries d := by
  intro q e hq
  rw [hd.get?_prune hp] at hq
  split at hq
  · cases hq
  · exact hq

theorem WellFormed.prune (hd : d.WellFormed) (hp : d.get? p ≠ some .directory) :
    (d.prune p).WellFormed := by
  have hsome : ∀ {q e}, (d.prune p).get? q = some e → d.get? q = some e :=
    hd.keepsEntries_prune hp _ _
  have hkeep : ∀ q, d.get? q = some .directory → (d.prune p).get? q = some .directory := by
    intro q hq
    rw [hd.get?_prune hp, if_neg fun h : q = p => hp (h ▸ hq)]
    exact hq
  exact ⟨fun h => hkeep _ (hd.above (hsome h)), fun h => hd.named (hsome h),
    fun h => hd.numbered (hsome h), hd.lost_le, hkeep _ hd.live, hd.suffixes⟩

theorem WellFormed.get?_prune_prune (hd : d.WellFormed) (hq : d.get? q ≠ some .directory)
    (hp : d.get? p ≠ some .directory) (r : Place) :
    ((d.prune q).prune p).get? r = if r = p then none else if r = q then none else d.get? r := by
  have hp' : (d.prune q).get? p ≠ some .directory := by
    rw [hd.get?_prune hq]
    split
    · nofun
    · exact hp
  rw [(hd.prune hq).get?_prune hp', hd.get?_prune hq]

/-! ## Moves -/

theorem find?_map {f : Place × Entry → Place × Entry} {q' : Place}
    {entries : List (Place × Entry)} (h : ∀ x ∈ entries, ((f x).1 = q ↔ x.1 = q') ∧ (f x).2 = x.2) :
    find? q (entries.map f) = find? q' entries := by
  induction entries with
  | nil => rfl
  | cons x entries ih =>
    obtain ⟨h₁, h₂⟩ := h x List.mem_cons_self
    simp only [List.map_cons, find?, h₁, h₂, ih fun y hy => h y (List.mem_cons_of_mem _ hy)]

theorem find?_map_eq_none {f : Place × Entry → Place × Entry} {entries : List (Place × Entry)}
    (h : ∀ x ∈ entries, (f x).1 ≠ q) : find? q (entries.map f) = none := by
  induction entries with
  | nil => rfl
  | cons x entries ih =>
    simp only [List.map_cons, find?, if_neg (h x List.mem_cons_self),
      ih fun y hy => h y (List.mem_cons_of_mem _ hy)]

/-- **What is where after a move** between places of which none is below the other. -/
theorem get?_graft {src dest : Place} (hs : ¬src <+: dest) (hd : ¬dest <+: src) :
    (d.graft src dest).get? q =
      if dest <+: q then d.get? (src ++ q.drop dest.length)
      else if src <+: q then none else d.get? q := by
  have hdne : dest ≠ [] := fun h : dest = [] => hd (h ▸ List.nil_prefix)
  have hsne : src ≠ [] := fun h : src = [] => hs (h ▸ List.nil_prefix)
  -- no entry that is moved, or that stays, was at or below the destination
  have hstay : ∀ x ∈ (d.prune dest).entries, ¬dest <+: x.1 := by
    intro x hx
    simp only [Disk.prune, List.mem_filter, Bool.not_eq_true', ← Bool.not_eq_true,
      List.isPrefixOf_iff_prefix] at hx
    exact hx.2
  have hprune : ∀ {r}, r ≠ [] → ¬dest <+: r →
      find? r (d.prune dest).entries = d.get? r := by
    intro r hr hnot
    have h := Disk.get?_prune (d := d) (q := r) hdne
    rwa [if_neg (mt List.isPrefixOf_iff_prefix.1 hnot), Disk.get?, if_neg hr] at h
  by_cases hq : dest <+: q
  · obtain ⟨rest, rfl⟩ := hq
    have hnot : ¬dest <+: src ++ rest := fun h =>
      (List.prefix_or_prefix_of_prefix h (List.prefix_append src rest)).elim hd hs
    rw [if_pos (List.prefix_append dest rest), List.drop_left, Disk.get?, if_neg (by simp [hdne]),
      Disk.graft, find?_map, hprune (by simp [hsne]) hnot]
    intro x hx
    have hx' := hstay x hx
    split
    · rename_i hp
      obtain ⟨rest', hr⟩ := List.isPrefixOf_iff_prefix.1 hp
      simp [← hr]
    · rename_i hp
      refine ⟨⟨fun h => absurd (h ▸ List.prefix_append dest rest) hx', fun h => ?_⟩, rfl⟩
      exact absurd (List.isPrefixOf_iff_prefix.2 (h ▸ List.prefix_append src rest)) hp
  · rw [if_neg hq]
    by_cases hqnil : q = []
    · subst hqnil
      rw [if_neg fun h => hsne (List.prefix_nil.1 h)]
      rfl
    · rw [Disk.get?, if_neg hqnil, Disk.graft]
      split
      · rename_i hsq
        refine find?_map_eq_none fun x hx h => ?_
        split at h
        · exact hq (h ▸ List.prefix_append _ _)
        · rename_i hp
          exact hp (List.isPrefixOf_iff_prefix.2 (h ▸ hsq))
      · rename_i hsq
        rw [find?_map, hprune hqnil hq]
        intro x hx
        split
        · rename_i hp
          refine ⟨⟨fun h => absurd (h ▸ List.prefix_append _ _) hq, fun h => ?_⟩, rfl⟩
          exact absurd (h ▸ List.isPrefixOf_iff_prefix.1 hp) hsq
        · exact ⟨Iff.rfl, rfl⟩

theorem WellFormed.get?_graft (hd : d.WellFormed) (hsrc : d.get? p = some e)
    (he : e ≠ .directory) (hdir : d.get? dir = some .directory)
    (hn : d.get? (dir ++ [name]) ≠ some .directory) (hne : p ≠ dir ++ [name]) :
    (d.graft p (dir ++ [name])).get? q =
      if q = dir ++ [name] then some e else if q = p then none else d.get? q := by
  have hp : d.get? p ≠ some .directory := fun h => he (Option.some.inj (hsrc.symm.trans h))
  have hs : ¬p <+: dir ++ [name] := by
    intro h
    rcases List.prefix_concat_iff.1 (by simpa using h) with h | h
    · exact hne (by simpa using h)
    · have := hd.get?_eq_none hp h fun hq : dir = p => hp (hq ▸ hdir)
      rw [hdir] at this
      cases this
  have hds : ¬dir ++ [name] <+: p := by
    intro h
    rw [hd.get?_eq_none hn h hne] at hsrc
    cases hsrc
  rw [Disk.get?_graft hs hds]
  by_cases hq : dir ++ [name] <+: q
  · rw [if_pos hq]
    obtain ⟨rest, rfl⟩ := hq
    rw [List.drop_left]
    by_cases hr : rest = []
    · simp [hr, hsrc]
    · rw [if_neg (by simpa using hr),
        hd.get?_eq_none hp (List.prefix_append _ _) (by simpa using hr)]
      split
      · rfl
      · exact (hd.get?_eq_none hn (List.prefix_append _ _) (by simpa using hr)).symm
  · rw [if_neg hq, if_neg fun h : q = dir ++ [name] => hq (h ▸ List.prefix_rfl)]
    by_cases hpq : p <+: q
    · rw [if_pos hpq]
      split
      · rfl
      · rename_i h
        exact (hd.get?_eq_none hp hpq h).symm
    · rw [if_neg hpq, if_neg fun h : q = p => hpq (h ▸ List.prefix_rfl)]

/-- **An entry moved** that is no directory, to where no directory is. -/
theorem WellFormed.graft (hd : d.WellFormed) (hsrc : d.get? p = some e) (he : e ≠ .directory)
    (hdir : d.get? dir = some .directory) (hn : d.get? (dir ++ [name]) ≠ some .directory)
    (hne : p ≠ dir ++ [name]) (hname : IsEntryName name) :
    (d.graft p (dir ++ [name])).WellFormed := by
  have hp : d.get? p ≠ some .directory := fun h => he (Option.some.inj (hsrc.symm.trans h))
  -- it is as if the entry were removed and then put
  have hgone : ((d.prune p).put (dir ++ [name]) e).WellFormed := by
    refine (hd.prune hp).put ?_ ?_ hname fun id h => hd.numbered (h ▸ hsrc)
    · rw [hd.get?_prune hp, if_neg fun h : dir = p => hp (h ▸ hdir), hdir]
    · rw [hd.get?_prune hp, if_neg (Ne.symm hne)]
      exact hn
  refine hgone.of_get? ⟨rfl, rfl, rfl, rfl⟩ (Nat.le_refl _) fun q => ?_
  rw [hd.get?_graft hsrc he hdir hn hne, get?_put e (by simp), hd.get?_prune hp]

end Replica.Disk
