import Mathlib.Data.List.Basic
import Replica.Proofs.Disk.Session

/-!
# Files in order

Every live file stands at a place of its own, where nothing is to be, and all else in the tree is
what was there before or was promoted to its place last.

* **`Session.InOrder`**, `inOrder_new`: what is known of a session;
* **`InOrder.of_others`**: it remains so when one file changes and the others stand where they stood;
* `InOrder.create`: a file is made whose name is not that of a promoted one;
* `InOrder.of_step`, `InOrder.append`, `InOrder.close`: files are written and closed;
* `Session.BreaksWay`, `InOrder.promote_cases`, **`InOrder.promote`**: a file is promoted.
-/

namespace Replica

open Disk

namespace Session

variable {start : Disk} {s : Session} {id id' : Nat} {u : LiveTemp} {dir p q : Place}
  {path dest parent name : String} {draw : Nat → String} {options : TempOptions} {bs : Bytes}

theorem update_eq_some_iff {live : Nat → Option LiveTemp} {u? : Option LiveTemp} :
    Function.update live id u? id' = some u ↔
      id' = id ∧ u? = some u ∨ id' ≠ id ∧ live id' = some u := by
  by_cases h : id' = id <;> simp [h]

theorem placeOf_eq_some_iff :
    s.placeOf id = some p ↔ ∃ u, s.live id = some u ∧ s.disk.named? u.file.path = some p :=
  Option.bind_eq_some_iff

theorem placeOf_eq (hu : s.live id = some u) (hst : u.StandsAt s.disk dir name) :
    s.placeOf id = some (dir ++ [name]) := by
  rw [placeOf, hu, Option.bind_some, hst.named?_eq]

/-- **A promotion breaks a way.** A copy takes the place of an entry that the path of the destination
needs, or the file takes that of one that the path of a live file needs. -/
def BreaksWay (s : Session) (u : LiveTemp) (dest : String) : Prop :=
  s.disk.CopiesOver u.file.path dest ∧ s.disk.LeadsThroughItself dest ∨
    (∃ left, (s.disk.replaceFile u.file.path dest).2 = .ok left) ∧
      ∃ q id v, s.disk.named? dest = some q ∧ s.live id = some v ∧
        s.disk.NeedsOnWay v.file.path q

/-- **The session is in order.** -/
structure InOrder (start : Disk) (s : Session) : Prop where
  wellFormed : s.disk.WellFormed
  stands : ∀ {id u}, s.live id = some u → u.file.id = id ∧ ∃ dir name, u.StandsAt s.disk dir name
  distinct : ∀ {id id' p}, s.placeOf id = some p → s.placeOf id' = some p → id = id'
  /-- Nothing is to be where a file stands. -/
  kept : ∀ {id p}, s.placeOf id = some p → s.expected start p = none
  elsewhere : ∀ q, ¬s.Stages q → s.disk.item? q = s.expected start q

theorem inOrder_new (hd : start.WellFormed) : (new start).InOrder start where
  wellFormed := hd
  stands := nofun
  distinct := nofun
  kept := nofun
  elsewhere _ _ := rfl

namespace InOrder

theorem placeOf_drawing : (s.drawing draw).placeOf id = s.placeOf id := by
  simp only [placeOf, drawing, named?_drawing]

theorem stages_drawing : (s.drawing draw).Stages q ↔ s.Stages q := by
  simp only [Stages, drawing, named?_drawing]

theorem drawing (h : s.InOrder start) (hdraw : ∀ n, ∀ c ∈ (draw n).toList, c ∈ suffixAlphabet) :
    (s.drawing draw).InOrder start where
  wellFormed := h.wellFormed.drawing hdraw
  stands hu := by
    obtain ⟨hid, dir, name, hst⟩ := h.stands hu
    exact ⟨hid, dir, name, hst.frame (locate_drawing.trans hst.located) rfl (Nat.le_refl _)
      (fun _ => rfl) fun _ hq => hq⟩
  distinct hp hp' := h.distinct (placeOf_drawing ▸ hp) (placeOf_drawing ▸ hp')
  kept hp := h.kept (placeOf_drawing ▸ hp)
  elsewhere q hq := h.elsewhere q (mt stages_drawing.2 hq)

/-! ## A step with one file -/

/-- **The other files stand where they stood.** The file itself may be new. -/
theorem of_others (h : s.InOrder start) {s' : Session} (hd : s'.disk.WellFormed)
    (hlive : ∀ k, k ≠ id → s'.live k = s.live k)
    (hothers : ∀ {k v dir name}, k ≠ id → s.live k = some v → v.StandsAt s.disk dir name →
      v.StandsAt s'.disk dir name)
    (hself : ∀ u, s'.live id = some u → u.file.id = id ∧ ∃ dir name, u.StandsAt s'.disk dir name ∧
      s'.expected start (dir ++ [name]) = none ∧ ∀ k, k ≠ id → s.placeOf k ≠ some (dir ++ [name]))
    (hexpected : ∀ {k p}, k ≠ id → s.placeOf k = some p →
      s'.expected start p = s.expected start p)
    (helsewhere : ∀ q, ¬s'.Stages q → ¬s.Stages q ∨ s.placeOf id = some q →
      s'.disk.item? q = s'.expected start q) : s'.InOrder start := by
  have hplaces : ∀ {k p}, k ≠ id → s'.placeOf k = some p → s.placeOf k = some p := by
    intro k p hk hp
    obtain ⟨v, hv', -⟩ := placeOf_eq_some_iff.1 hp
    have hv := (hlive k hk).symm.trans hv'
    obtain ⟨-, dir, name, hst⟩ := h.stands hv
    rw [placeOf_eq hv hst, ← placeOf_eq hv' (hothers hk hv hst), hp]
  have hplace : ∀ {p}, s'.placeOf id = some p →
      s'.expected start p = none ∧ ∀ k, k ≠ id → s.placeOf k ≠ some p := by
    intro p hp
    obtain ⟨u, hu, -⟩ := placeOf_eq_some_iff.1 hp
    obtain ⟨-, dir, name, hst, hnone, hfree⟩ := hself u hu
    obtain rfl := Option.some.inj ((placeOf_eq hu hst).symm.trans hp)
    exact ⟨hnone, hfree⟩
  refine ⟨hd, fun {k v} hv => ?_, fun {k k' p} hp hp' => ?_, fun {k p} hp => ?_, fun q hq => ?_⟩
  · by_cases hk : k = id
    · subst hk
      obtain ⟨hid, dir, name, hst, -⟩ := hself v hv
      exact ⟨hid, dir, name, hst⟩
    · have hv' := (hlive k hk).symm.trans hv
      obtain ⟨hid, dir, name, hst⟩ := h.stands hv'
      exact ⟨hid, dir, name, hothers hk hv' hst⟩
  · by_cases hk : k = id <;> by_cases hk' : k' = id
    · exact hk.trans hk'.symm
    · exact absurd (hplaces hk' hp') ((hplace (hk ▸ hp)).2 k' hk')
    · exact absurd (hplaces hk hp) ((hplace (hk' ▸ hp')).2 k hk)
    · exact h.distinct (hplaces hk hp) (hplaces hk' hp')
  · by_cases hk : k = id
    · exact (hplace (hk ▸ hp)).1
    · rw [hexpected hk (hplaces hk hp), h.kept (hplaces hk hp)]
  · refine helsewhere q hq (or_iff_not_imp_left.2 fun hstages => ?_)
    obtain ⟨k, v, hv, hpromoted, hvq⟩ := not_not.1 hstages
    obtain ⟨-, dir, name, hst⟩ := h.stands hv
    obtain rfl := Option.some.inj (hst.named?_eq.symm.trans hvq)
    by_cases hk : k = id
    · exact hk ▸ placeOf_eq hv hst
    · exact absurd ⟨k, v, (hlive k hk).trans hv, hpromoted, (hothers hk hv hst).named?_eq⟩ hq

theorem of_step (h : s.InOrder start) (hu : s.live id = some u) (hst : u.StandsAt s.disk dir name)
    {s' : Session} (hd : s'.disk.WellFormed) (hlive : ∀ k, k ≠ id → s'.live k = s.live k)
    (hothers : ∀ {k v dir' name'}, k ≠ id → s.live k = some v → v.StandsAt s.disk dir' name' →
      v.StandsAt s'.disk dir' name')
    (hself : ∀ u', s'.live id = some u' → u'.file.id = id ∧ u'.StandsAt s'.disk dir name)
    (hclosed : s'.live id = none → s'.disk.get? (dir ++ [name]) = none)
    (hexpected : ∀ {k p}, s.placeOf k = some p → s'.expected start p = s.expected start p)
    (helsewhere : ∀ q, q ≠ dir ++ [name] → s.disk.item? q = s.expected start q →
      s'.disk.item? q = s'.expected start q) : s'.InOrder start := by
  have hplace := placeOf_eq hu hst
  have hnone : s'.expected start (dir ++ [name]) = none := by
    rw [hexpected hplace, h.kept hplace]
  refine h.of_others hd hlive hothers (fun u' hu' => ?_) (fun _ => hexpected) fun q hq hcases => ?_
  · obtain ⟨hid, hst'⟩ := hself u' hu'
    exact ⟨hid, dir, name, hst', hnone, fun k hk hp => hk (h.distinct hp hplace)⟩
  · by_cases hqp : q = dir ++ [name]
    · -- nothing is there, and nothing is to be there
      subst hqp
      have habsent : s'.disk.get? (dir ++ [name]) = none := by
        cases hu' : s'.live id with
        | none => exact hclosed hu'
        | some u' =>
          have hst' := (hself u' hu').2
          cases hpromoted : u'.isPromoted with
          | true => exact hst'.entry_eq_none hpromoted
          | false => exact absurd ⟨id, u', hu', hpromoted, hst'.named?_eq⟩ hq
      rw [hnone, item?, habsent, Option.map_none]
    · have hother : s.placeOf id ≠ some q := fun heq =>
        hqp (Option.some.inj (heq.symm.trans hplace))
      exact helsewhere q hqp (h.elsewhere q (hcases.resolve_right hother))

/-! ## Files that are made, written and closed -/

theorem create (h : s.InOrder start)
    (hn : ∀ id u, s.live id = some u → u.isPromoted = true →
      s.disk.NeverTries parent options.beginning (Path.name u.file.path)) :
    (s.create parent options).InOrder start := by
  rw [Session.create]
  split
  · exact h
  · rename_i d' file hnew
    obtain ⟨hoffset, dir, name, hs⟩ := staged_of_createTemp hnew
    obtain ⟨there, k, -, -, hthere, hfile, -⟩ := createTemp_eq_ok hnew
    have hother : ∀ {id u dir' name'}, s.live id = some u → u.StandsAt s.disk dir' name' →
        dir' ++ [name'] ≠ dir ++ [name] := by
      intro id u dir' name' hu hst heq
      cases hpromoted : u.isPromoted with
      | true =>
        obtain rfl : name' = name := by simpa using (List.append_inj' heq rfl).2
        refine hn id u hu hpromoted there k hthere ?_
        rw [name_of_locate hst.located, ← name_of_locate hs.located, hfile]
      | false =>
        have hget := hst.entry_eq_file hpromoted
        rw [heq, hs.new] at hget
        cases hget
    have hplaces : ∀ k, s.placeOf k ≠ some (dir ++ [name]) := by
      intro k hp
      obtain ⟨v, hv, hvp⟩ := placeOf_eq_some_iff.1 hp
      obtain ⟨-, dir', name', hst⟩ := h.stands hv
      exact hother hv hst (Option.some.inj (hst.named?_eq.symm.trans hvp))
    have hnone : s.expected start (dir ++ [name]) = none := by
      rw [← h.elsewhere (dir ++ [name]), item?, hs.new, Option.map_none]
      rintro ⟨k, v, hv, -, hvp⟩
      exact hplaces k (placeOf_eq_some_iff.2 ⟨v, hv, hvp⟩)
    refine h.of_others (hs.wellFormed h.wellFormed) (fun k hk => Function.update_of_ne hk _ _)
      (fun _ hv hst => hst.of_staged hs (hother hv hst)) (fun u hu => ?_) (fun _ _ => rfl)
      fun q hq hcases => ?_
    · obtain ⟨-, heq⟩ | ⟨hne, -⟩ := update_eq_some_iff.1 hu
      · obtain rfl := Option.some.inj heq
        exact ⟨rfl, dir, name, LiveTemp.standsAt_new h.wellFormed hs hoffset, hnone,
          fun k _ => hplaces k⟩
      · exact absurd rfl hne
    · have hne : q ≠ dir ++ [name] := by
        rintro rfl
        exact hq ⟨file.id, _, Function.update_self .., rfl, named?_of_locate hs.locate_eq⟩
      -- the number of the file is new
      have hfresh : s.placeOf file.id ≠ some q := by
        intro hp
        obtain ⟨v, hv, -⟩ := placeOf_eq_some_iff.1 hp
        obtain ⟨hid, _, _, hst⟩ := h.stands hv
        have hlt := hst.numbered
        rw [hid, hs.id_eq] at hlt
        exact absurd hlt (Nat.lt_irrefl _)
      exact (hs.sameAt h.wellFormed hne).item?_eq.trans
        (h.elsewhere q (hcases.resolve_right hfresh))

theorem append (h : s.InOrder start) (hwrites : ∀ u, s.live id = some u → u.isPromoted = false) :
    (s.append id bs).InOrder start := by
  rw [Session.append]
  split
  · exact h
  · rename_i u hu
    obtain ⟨rfl, dir, name, hst⟩ := h.stands hu
    refine h.of_step hu hst (h.wellFormed.setContent _ _)
      (fun k hk => Function.update_of_ne hk _ _) (fun hk hv hst' => ?_) (fun u' hu' => ?_)
      (fun hnone => ?_) (fun _ => rfl) fun q hq hitem => ?_
    · exact hst'.of_appendTemp hst.numbered ((h.stands hv).1 ▸ hk) bs
    · obtain ⟨-, heq⟩ | ⟨hne, -⟩ := update_eq_some_iff.1 hu'
      · obtain rfl := Option.some.inj heq
        exact ⟨rfl, hst.appendTemp (hwrites u hu) bs⟩
      · exact absurd rfl hne
    · exact absurd hnone (by simp)
    · have hsame : s.disk.SameAt (s.disk.appendTemp u.file bs).1 q := by
        refine ⟨rfl, fun k hk => (body_setContent _ _ _ hst.numbered).trans (if_neg ?_)⟩
        rintro rfl
        exact hq (hst.sole (hwrites u hu) q hk)
      exact hsame.item?_eq.trans hitem

theorem close (h : s.InOrder start) (id : Nat) : (s.close id).InOrder start := by
  rw [Session.close]
  split
  · exact h
  · rename_i u hu
    obtain ⟨rfl, dir, name, hst⟩ := h.stands hu
    have hclosed := congrArg Prod.fst hst.closeTemp_eq
    cases hpromoted : u.isPromoted with
    | true =>
      rw [hpromoted, if_pos rfl] at hclosed
      rw [hclosed]
      refine h.of_step hu hst h.wellFormed (fun k hk => Function.update_of_ne hk _ _)
        (fun _ _ hst' => hst') (fun u' hu' => absurd hu' (by simp))
        (fun _ => hst.entry_eq_none hpromoted) (fun _ => rfl) fun q _ hitem => hitem
    | false =>
      rw [hpromoted, if_neg Bool.false_ne_true] at hclosed
      rw [hclosed]
      have hfile := hst.entry_eq_file hpromoted
      refine h.of_step hu hst (h.wellFormed.prune hst.entry_ne)
        (fun k hk => Function.update_of_ne hk _ _) (fun hk hv hst' => ?_)
        (fun u' hu' => absurd hu' (by simp)) (fun _ => ?_) (fun _ => rfl) fun q hq hitem => ?_
      · refine hst'.prune h.wellFormed hfile fun heq => hk ?_
        exact h.distinct (placeOf_eq hv hst') (heq ▸ placeOf_eq hu hst)
      · exact (h.wellFormed.get?_prune hst.entry_ne).trans (if_pos rfl)
      · exact (h.wellFormed.sameAt_prune hst.entry_ne hq).item?_eq.trans hitem

/-! ## A file that is promoted -/

theorem of_givesBack (h : s.InOrder start) (hu : s.live id = some u) {d : Disk}
    (hb : s.disk.GivesBack d) : Session.InOrder start { s with disk := d } := by
  obtain ⟨hid, dir, name, hst⟩ := h.stands hu
  refine h.of_step hu hst (hb.wellFormed h.wellFormed) (fun _ _ => rfl)
    (fun _ _ hst' => hst'.of_givesBack hb) (fun u' hu' => ?_) (fun hnone => ?_) (fun _ => rfl)
    fun q _ hitem => (hb.sameAt q).item?_eq.trans hitem
  · obtain rfl := Option.some.inj (hu.symm.trans hu')
    exact ⟨hid, hst.of_givesBack hb⟩
  · cases hu.symm.trans hnone

theorem expected_deliver {d : Disk} (hq : s.disk.named? dest = some q) (r : Place) :
    (s.deliver id u dest d).expected start r =
      if r = q then some (.file u.written) else s.expected start r := by
  rw [expected, deliver]
  by_cases hr : r = q
  · simp [hr, hq]
  · simp [hr, hq, Ne.symm hr, expected]

theorem deliver (h : s.InOrder start) (hu : s.live id = some u)
    (hst : u.StandsAt s.disk dir name) (hpromoted : u.isPromoted = false) {d : Disk}
    (hq : s.disk.ReceivesAt dest q) (hdest : ¬s.IsStagingPath dest)
    (hm : s.disk.MovesTo d (dir ++ [name]) q u.file.id)
    (hfree : ∀ k v, s.live k = some v → ¬s.disk.NeedsOnWay v.file.path q) :
    (s.deliver id u dest d).InOrder start := by
  obtain ⟨hid, -⟩ := h.stands hu
  have hq' := hq.get?_ne h.wellFormed
  have hfile := hst.entry_eq_file hpromoted
  have hplace : ∀ {k p}, s.placeOf k = some p → p ≠ q := by
    rintro k p hp rfl
    exact hdest ⟨k, p, hp, hq.named?_eq⟩
  have hne := hplace (placeOf_eq hu hst)
  have hexpected : ∀ r, (s.deliver id u dest d).expected start r =
      if r = q then some (.file u.written) else s.expected start r := expected_deliver hq.named?_eq
  refine h.of_step hu hst hm.wellFormed (fun k hk => Function.update_of_ne hk _ _)
    (fun hk hv hst' => ?_) (fun u' hu' => ?_) (fun hnone => ?_)
    (fun hp => (hexpected _).trans (if_neg (hplace hp))) fun r hr hitem => ?_
  · obtain ⟨hid', -⟩ := h.stands hv
    refine hst'.of_movesTo h.wellFormed hm hfile hq' hne (hfree _ _ hv) ?_ (fun heq => hk ?_)
      (hplace (placeOf_eq hv hst'))
    · rwa [hid, hid']
    · exact h.distinct (placeOf_eq hv hst') (heq ▸ placeOf_eq hu hst)
  · obtain ⟨-, heq⟩ | ⟨hne, -⟩ := update_eq_some_iff.1 hu'
    · obtain rfl := Option.some.inj heq
      exact ⟨hid, hst.promoted h.wellFormed hpromoted hm hq' hne (hfree _ _ hu)⟩
    · exact absurd rfl hne
  · exact absurd hnone (by simp [Session.deliver])
  · rw [hexpected]
    by_cases hrq : r = q
    · -- what was written
      obtain ⟨k, hk, -, hcontent⟩ := hm.holds
      rw [if_pos hrq, hrq, item?, Session.deliver]
      simp only [hk, Option.map_some, hcontent, hst.content_eq hpromoted]
    · have hsame : s.disk.SameAt d r := by
        refine ⟨?_, fun k hk => hm.body_eq k (h.wellFormed.numbered hk)⟩
        rw [hm.get?_eq h.wellFormed hst.entry_ne hrq, if_neg hr]
      rw [if_neg hrq]
      exact hsame.item?_eq.trans hitem

theorem promote_cases (h : s.InOrder start) (hn : s.disk.NeverDraws (Path.name dest))
    (hdest : ¬s.IsStagingPath dest) (hu : s.live id = some u) (hst : u.StandsAt s.disk dir name) :
    (∃ d e q, s.disk.replaceFile u.file.path dest = (d, .error e) ∧
        (s.disk.CopiesOver u.file.path dest ∧ s.disk.LeadsThroughItself dest) ∧
        s.disk.ReceivesAt dest q ∧ s.disk.LeadsOn q ∧ s.disk.Covers d q) ∨
      ¬(s.disk.CopiesOver u.file.path dest ∧ s.disk.LeadsThroughItself dest) ∧
        ((∃ d e, s.disk.replaceFile u.file.path dest = (d, .error e) ∧ s.disk.GivesBack d) ∨
          ∃ d left q, s.disk.replaceFile u.file.path dest = (d, .ok left) ∧
            u.isPromoted = false ∧ s.disk.ReceivesAt dest q ∧
            (∀ path, s.disk.NeedsOnWay path q →
              s.disk.LeadsOn q ∧ d.locate path = .error .notDirectory) ∧
            (s.disk.MovesTo d (dir ++ [name]) q u.file.id ∨
              s.disk.NeedsOnWay u.file.path q)) := by
  by_cases hhalf : s.disk.CopiesOver u.file.path dest ∧ s.disk.LeadsThroughItself dest
  · obtain ⟨d, e, q, heq, hq, hon, hcovers⟩ :=
      replaceFile_halfway h.wellFormed hhalf.1 hhalf.2
    exact .inl ⟨d, e, q, heq, hhalf, hq, hon, hcovers⟩
  · refine .inr ⟨hhalf, ?_⟩
    cases hpromoted : u.isPromoted with
    | true =>
      exact .inl (replaceFile_of_none h.wellFormed hst.located (hst.entry_eq_none hpromoted))
    | false =>
      have hne : s.disk.named? dest ≠ some (dir ++ [name]) := fun heq =>
        hdest ⟨id, _, placeOf_eq hu hst, heq⟩
      refine (replaceFile_file_cases h.wellFormed hst.located hst.short
        (hst.entry_eq_file hpromoted) hn (hst.sole hpromoted) hne hhalf).imp_right ?_
      rintro ⟨d, left, q, heq, hq, hlost, hmoved⟩
      exact ⟨d, left, q, heq, rfl, hq, hlost, hmoved⟩

theorem promote (h : s.InOrder start) (hn : s.disk.NeverDraws (Path.name dest))
    (hdest : ¬s.IsStagingPath dest) (hb : ∀ u, s.live id = some u → ¬s.BreaksWay u dest) :
    (s.promote id dest).InOrder start := by
  rw [Session.promote]
  split
  · exact h
  · rename_i u hu
    obtain ⟨-, dir, name, hst⟩ := h.stands hu
    rcases h.promote_cases hn hdest hu hst with
      ⟨d, e, q, heq, hhalf, -⟩ | ⟨-, ⟨d, e, heq, hback⟩ |
        ⟨d, left, q, heq, hpromoted, hq, -, hmoved⟩⟩
    · exact absurd (.inl hhalf) (hb u hu)
    · rw [heq]
      exact h.of_givesBack hu hback
    · have hfree : ∀ k v, s.live k = some v → ¬s.disk.NeedsOnWay v.file.path q :=
        fun k v hv hneeds => hb u hu (.inr ⟨⟨left, by rw [heq]⟩, q, k, v, hq.named?_eq, hv, hneeds⟩)
      rw [heq]
      exact h.deliver hu hst hpromoted hq hdest (hmoved.resolve_right (hfree _ _ hu)) hfree

end InOrder

end Session

end Replica
