import Mathlib.Data.List.Basic
import Replica.Proofs.Disk.Covered
import Replica.Proofs.Disk.Entries

/-!
# Links on the way and at the end

A path leads through the links on its way to a directory, and through the one at its end to a file.

* `walk_of_fewer`: with fewer links a walk ends as it did, or the links do not suffice;
* **`walk_mono`**, `fileAt_mono`: what a path leads to is found in a tree with more entries;
* `Linked`, **`Linked.walk_target_iff`**: a new link does not help to find the file it leads to;
* **`not_leadsOn_of_walk`**: a link to a file leads to no directory;
* **`WellFormed.locate_prune`**: a path does not need an entry that leads to no directory;
* `NeedsOnWay`, **`Covers.locate_of_needsOnWay`**: a path needs an entry, and is lost without it;
* `LeadsThroughItself`, `Covers.leadsThroughItself_iff`: the path of an entry needs the entry.
-/

namespace Replica.Disk

variable {d d' : Disk} {missing : Bool} {links fewer left : Nat} {here dir p q : Place} {id : Nat}
  {spot : Spot} {path name target : String} {slash : Bool} {steps rest : List String}

/-! ## Walks with fewer links -/

/-- **With fewer links** a walk ends as it did, or the links do not suffice. -/
theorem walk_of_fewer {links fewer : Nat} {here : Place} {steps : List String}
    (h : fewer ≤ links) :
    d.walk missing fewer here steps = .error .tooManyLinks ∨
      d.walk missing fewer here steps = d.walk missing links here steps := by
  cases steps with
  | nil => exact .inr (by rw [walk_nil, walk_nil])
  | cons step rest =>
    rcases step_cases step with rfl | rfl | ⟨hs, hs', hl⟩ | hs
    · rw [walk_dot, walk_dot]
      exact walk_of_fewer h
    · rw [walk_up, walk_up]
      exact walk_of_fewer h
    · exact .inr (by rw [walk_tooLong hs hs' hl, walk_tooLong hs hs' hl])
    · rw [walk_name hs, walk_name hs]
      split
      · exact .inr rfl
      · exact walk_of_fewer h
      · exact .inr rfl
      · cases fewer with
        | zero => exact .inl rfl
        | succ fewer =>
          obtain ⟨links, rfl⟩ := Nat.exists_eq_add_of_le' h
          exact walk_of_fewer (Nat.le_of_succ_le_succ h)
termination_by (fewer, steps.length)

theorem walk_of_more (h : fewer ≤ links) (hw : d.walk missing fewer here steps = .ok p) :
    d.walk missing links here steps = .ok p := by
  rcases walk_of_fewer h with hmany | he
  · cases hw.symm.trans hmany
  · rw [← he, hw]

/-! ## Trees with more entries -/

theorem walk_mono {links : Nat} {here : Place} {steps : List String} (hk : d.KeepsEntries d')
    (h : d.walk false links here steps = .ok p) : d'.walk false links here steps = .ok p := by
  cases steps with
  | nil => rwa [walk_nil] at h ⊢
  | cons step rest =>
    rcases step_cases step with rfl | rfl | ⟨hs, hs', hl⟩ | hs
    · rw [walk_dot] at h ⊢
      exact walk_mono hk h
    · rw [walk_up] at h ⊢
      exact walk_mono hk h
    · rw [walk_tooLong hs hs' hl] at h
      cases h
    · rw [walk_name hs] at h ⊢
      cases hget : d.get? (here ++ [step]) with
      | none => simp [hget] at h
      | some e =>
        rw [hget] at h
        rw [hk _ _ hget]
        cases e with
        | directory => exact walk_mono hk h
        | file id => exact h
        | link target =>
          cases links with
          | zero => cases h
          | succ links => exact walk_mono hk h
termination_by (links, steps.length)

theorem walkFrom_mono {lost : Nat} (hk : d.KeepsEntries d')
    (h : d.walkFrom false lost here steps = .ok spot) :
    d'.walkFrom false lost here steps = .ok spot := by
  induction steps generalizing lost here with
  | nil =>
    cases lost with
    | zero => simpa using h
    | succ lost => exact h
  | cons step rest ih =>
    cases lost with
    | zero =>
      rw [walkFrom_zero] at h ⊢
      cases hw : d.walk false maxLinks here (step :: rest) with
      | error e =>
        rw [hw] at h
        cases h
      | ok q => rwa [walk_mono hk hw, ← hw]
    | succ lost =>
      by_cases hs : step = "."
      · subst hs
        rw [walkFrom_dot] at h ⊢
        exact ih h
      · by_cases hs' : step = ".."
        · subst hs'
          rw [walkFrom_up] at h ⊢
          exact ih h
        · rw [walkFrom_name hs hs'] at h
          cases h

/-- **The file that a path leads to** is found in a tree with more entries. -/
theorem fileAt_mono (hk : d.KeepsEntries d') (hb : d.SameBase d') (h : d.fileAt path = .ok id) :
    d'.fileAt path = .ok id := by
  rw [fileAt] at h
  split at h
  · cases h
  · rename_i spot hspot
    have hspot' : d'.resolve path = .ok spot := by
      rw [resolve] at hspot ⊢
      cases hc : check path with
      | error e =>
        rw [hc] at hspot
        cases hspot
      | ok u =>
        rw [hc] at hspot
        rw [walkPath, hb.lost, hb.workingDir]
        exact walkFrom_mono hk hspot
    split at h
    · rename_i id' hid
      have hid' : d'.entryAt? spot = some (.file id') := by
        cases spot with
        | place p => exact hk _ _ hid
        | removed p => cases hid
      simp only [fileAt, hspot', hid']
      exact h
    · cases h

/-! ## What an entry leads to -/

theorem fileAt_of_directory (hd : d.WellFormed) (h : d.locate path = .ok (.entry dir name slash))
    (hshort : isTooLong name = false) (hdir : d.get? (dir ++ [name]) = some .directory) :
    d.fileAt path = .error .isDirectory := by
  obtain ⟨hc, hdot, hup, -, init, left, hinit, hl⟩ := locate_eq_entry_iff.1 h
  have hleads := hl.append (.enter ⟨hdot, hup, hshort⟩ hdir .nil)
  rw [← hinit] at hleads
  have hthere := hd.directory_of_leads hleads
  rw [fileAt, hleads.resolve_eq hc]
  simp only [hthere]

theorem walk_to_link (hs : IsName name) (hlink : d.get? (here ++ [name]) = some (.link target)) :
    d.walk false links here [name] = .ok q ↔
      ∃ left, links = left + 1 ∧
        d.walk false left (start here target) (Path.steps target) = .ok q := by
  rw [walk_name hs, hlink]
  cases links with
  | zero => simp
  | succ left => simp

/-- **The path of a link leads to a file** where the target does. -/
theorem walk_of_fileAt (h : d.locate path = .ok (.entry dir name false))
    (hlink : d.get? (dir ++ [name]) = some (.link target)) (hf : d.fileAt path = .ok id) :
    ∃ left q, d.walk false left (start dir target) (Path.steps target) = .ok q ∧
      d.get? q = some (.file id) := by
  obtain ⟨hc, hdot, hup, hslash, init, left, hinit, hl⟩ := locate_eq_entry_iff.1 h
  have hsteps := (Path.steps_eq_parts hslash.symm).trans hinit
  obtain ⟨q, hw, hq⟩ := (fileAt_eq_ok_iff hc hsteps hl).1 hf
  cases htoo : isTooLong name with
  | true =>
    rw [walk_tooLong hdot hup htoo] at hw
    cases hw
  | false =>
    obtain ⟨left, -, hw⟩ := (walk_to_link ⟨hdot, hup, htoo⟩ hlink).1 hw
    exact ⟨left, q, hw, hq⟩

/-! ## A new link -/

/-- **A link put where nothing was.** All else is the same. -/
structure Linked (d d' : Disk) (p : Place) (target : String) : Prop where
  base : d.SameBase d'
  new : d.get? p = none
  isLink : d'.get? p = some (.link target)
  get?_eq : ∀ q, q ≠ p → d'.get? q = d.get? q
  body_eq : ∀ id, d'.body id = d.body id

theorem walk_past_file {links : Nat} {here : Place} {steps : List String} (hd : d.WellFormed)
    (hh : d.get? here = some .directory) (h : d.walk false links here steps = .ok p)
    (hp : d.get? p = some (.file id)) (hrest : rest ≠ []) :
    d.walk missing links here (steps ++ rest) = .error .notDirectory := by
  cases steps with
  | nil =>
    rw [walk_nil] at h
    obtain rfl := Except.ok.inj h
    cases hh.symm.trans hp
  | cons step more =>
    rw [List.cons_append]
    rcases step_cases step with rfl | rfl | ⟨hs, hs', hl⟩ | hs
    · rw [walk_dot] at h ⊢
      exact walk_past_file hd hh h hp hrest
    · rw [walk_up] at h ⊢
      exact walk_past_file hd (hd.directory_dropLast hh) h hp hrest
    · rw [walk_tooLong hs hs' hl] at h
      cases h
    · rw [walk_name hs] at h ⊢
      cases hget : d.get? (here ++ [step]) with
      | none => simp [hget] at h
      | some e =>
        rw [hget] at h
        cases e with
        | directory => exact walk_past_file hd hget h hp hrest
        | file id => simp [hrest]
        | link target =>
          cases links with
          | zero => cases h
          | succ links => simpa using walk_past_file hd (directory_start hh) h hp hrest
termination_by (links, steps.length)

namespace Linked

theorem keepsEntries (h : d.Linked d' p target) : d.KeepsEntries d' :=
  keepsEntries_of_new h.new h.get?_eq

/-- **A walk goes as it did, or to where the link is**, and from there along its target. -/
theorem walk_cases {links : Nat} {here : Place} {steps : List String} (h : d.Linked d' p target) :
    d'.walk missing links here steps = d.walk missing links here steps ∨
      d'.walk missing links here steps = .error .tooManyLinks ∨
      ∃ left rest, left < links ∧ d'.walk missing links here steps =
        d'.walk missing left (start p.dropLast target) (Path.steps target ++ rest) := by
  cases steps with
  | nil => exact .inl (by rw [walk_nil, walk_nil])
  | cons step rest =>
    rcases step_cases step with rfl | rfl | ⟨hs, hs', hl⟩ | hs
    · rw [walk_dot, walk_dot]
      exact walk_cases h
    · rw [walk_up, walk_up]
      exact walk_cases h
    · exact .inl (by rw [walk_tooLong hs hs' hl, walk_tooLong hs hs' hl])
    · rw [walk_name hs, walk_name hs]
      by_cases hp : here ++ [step] = p
      · rw [hp, h.isLink]
        cases links with
        | zero => exact .inr (.inl rfl)
        | succ links =>
          refine .inr (.inr ⟨links, rest, Nat.lt_succ_self _, ?_⟩)
          rw [← hp, List.dropLast_concat]
      · rw [h.get?_eq _ hp]
        split
        · exact .inl rfl
        · exact walk_cases h
        · exact .inl rfl
        · cases links with
          | zero => exact .inl rfl
          | succ links =>
            refine (walk_cases h).imp_right (.imp_right ?_)
            exact fun ⟨left, rest, hlt, he⟩ => ⟨left, rest, Nat.lt_succ_of_lt hlt, he⟩
termination_by (links, steps.length)

/-- **The link does not help to find the file that it leads to.** -/
theorem walk_target_iff (h : d.Linked d' p target) (hd' : d'.WellFormed) :
    d'.walk false links (start p.dropLast target) (Path.steps target) = .ok q ∧
        d'.get? q = some (.file id) ↔
      d.walk false links (start p.dropLast target) (Path.steps target) = .ok q ∧
        d.get? q = some (.file id) := by
  constructor
  · rintro ⟨hw, hq⟩
    have hqp : q ≠ p := fun hqp => by rw [hqp, h.isLink] at hq; cases hq
    have hstart : d'.get? (start p.dropLast target) = some .directory :=
      directory_start (hd'.directory_dropLast h.isLink)
    refine ⟨?_, h.get?_eq q hqp ▸ hq⟩
    -- a walk that comes back to the link begins again, with fewer links
    induction links using Nat.strongRecOn with
    | _ links ih =>
      have hagain := hw
      rcases h.walk_cases with he | he | ⟨left, rest, hlt, he⟩
      · rwa [← he]
      · rw [he] at hagain
        cases hagain
      · have hle := Nat.le_of_lt hlt
        rw [he] at hagain
        cases rest with
        | nil => exact walk_of_more hle (ih left hlt (by rwa [List.append_nil] at hagain))
        | cons step rest =>
          -- but nothing is behind the file
          have hmore := walk_of_more hle hagain
          rw [walk_past_file hd' hstart hw hq (List.cons_ne_nil _ _)] at hmore
          cases hmore
  · rintro ⟨hw, hq⟩
    exact ⟨walk_mono h.keepsEntries hw, h.keepsEntries _ _ hq⟩

end Linked

/-! ## Links that are not on the way -/

/-- **A link to a file leads to no directory**, whatever is behind it. -/
theorem not_leadsOn_of_walk (hd : d.WellFormed) (hlink : d.get? p = some (.link target))
    (hw : d.walk false links (start p.dropLast target) (Path.steps target) = .ok q)
    (hq : d.get? q = some (.file id)) : ¬d.LeadsOn p := by
  rintro ⟨target', links', rest, left, dir, hlink', hpass⟩
  obtain rfl := Entry.link.inj (Option.some.inj (hlink.symm.trans hlink'))
  obtain ⟨_, there, htarget, -⟩ := passes_append_iff.1 hpass
  rcases htarget.of_links links with ⟨left', hpass'⟩ | hmany
  · obtain rfl := Except.ok.inj (hw.symm.trans hpass'.walk_eq)
    have hstart : d.get? (start p.dropLast target) = some .directory :=
      directory_start (hd.directory_dropLast hlink)
    cases (hd.directory_of_passes hpass' hstart).symm.trans hq
  · have := hmany false []
    rw [List.append_nil, hw] at this
    cases this

theorem not_leadsOn_of_file (hp : d.get? p = some (.file id)) : ¬d.LeadsOn p := by
  rintro ⟨_, _, _, _, _, hlink, -⟩
  rw [hp] at hlink
  cases hlink

theorem LeadsOn.mono (h : d.LeadsOn p) (hk : d.KeepsWays d') : d'.LeadsOn p := by
  obtain ⟨target, links, rest, left, dir, hlink, hpass⟩ := h
  exact ⟨target, links, rest, left, dir, hk _ _ nofun hlink, hpass.mono hk⟩

theorem Covers.keepsWays_prune (hc : d.Covers d' p) (hd : d.WellFormed) :
    (d.prune p).KeepsWays d' ∧ d'.KeepsWays (d.prune p) := by
  have hget : ∀ q, (d.prune p).get? q = if q = p then none else d.get? q :=
    fun q => hd.get?_prune hc.notDirectory
  obtain ⟨id, hid⟩ := hc.isFile
  constructor
  · intro q e _ hq
    rw [hget] at hq
    split at hq
    · cases hq
    · rename_i hne
      rw [hc.get?_eq q hne, hq]
  · intro q e he hq
    by_cases hqp : q = p
    · rw [hqp, hid] at hq
      exact absurd (Option.some.inj hq).symm (he id)
    · rw [hget, if_neg hqp, ← hc.get?_eq q hqp, hq]

theorem covers_put (hp : d.get? p ≠ some .directory) (id : Nat) : d.Covers (d.put p (.file id)) p :=
  have hne : p ≠ [] := fun hnil => hp (hnil ▸ get?_nil)
  { base := ⟨rfl, rfl, rfl, rfl⟩
    get?_eq := fun q hq => by rw [get?_put _ hne, if_neg hq]
    isFile := ⟨id, by rw [get?_put _ hne, if_pos rfl]⟩
    notDirectory := hp }

/-- **Steps that do not need an entry** lead where they did without it. -/
theorem WellFormed.leads_prune (hd : d.WellFormed) (hp : d.get? p ≠ some .directory)
    (hon : ¬d.LeadsOn p) (h : d.Leads path steps left spot) :
    (d.prune p).Leads path steps left spot := by
  have hc := covers_put hp 0
  rcases h.of_covers hc with h | ⟨hon', -⟩
  · exact h.mono (hc.keepsWays_prune hd).2 ⟨rfl, rfl, rfl, rfl⟩
  · exact absurd hon' hon

theorem WellFormed.locate_prune (hd : d.WellFormed) (hp : d.get? p ≠ some .directory)
    (hon : ¬d.LeadsOn p) (h : d.locate path = .ok (.entry dir name slash)) :
    (d.prune p).locate path = .ok (.entry dir name slash) := by
  obtain ⟨hc, hdot, hup, hs, init, left, hinit, hl⟩ := locate_eq_entry_iff.1 h
  exact locate_eq_entry_iff.2 ⟨hc, hdot, hup, hs, init, left, hinit, hd.leads_prune hp hon hl⟩

/-! ## Entries on the way -/

/-- **A path needs an entry on its way**: without the entry it names nothing. -/
def NeedsOnWay (d : Disk) (path : String) (q : Place) : Prop :=
  d.named? path ≠ none ∧ (d.prune q).named? path = none

theorem locate_of_not_needsOnWay (h : ¬d.NeedsOnWay path q) (hd : d.WellFormed)
    (hloc : d.locate path = .ok (.entry dir name slash)) (hq : d.get? q ≠ some .directory) :
    (d.prune q).locate path = .ok (.entry dir name slash) := by
  have hnamed : d.named? path ≠ none := by simp [named?_of_locate hloc]
  obtain ⟨r, hr⟩ := Option.ne_none_iff_exists'.1 fun hnone => h ⟨hnamed, hnone⟩
  obtain ⟨dir', name', slash', hloc', -⟩ := named?_eq_some_iff.1 hr
  have hsame := locate_mono (hd.keepsEntries_prune hq).keepsWays ⟨rfl, rfl, rfl, rfl⟩ hloc'
  rw [Except.ok.inj (hloc.symm.trans hsame)]
  exact hloc'

/-- **No path needs a file** on its way. -/
theorem WellFormed.named?_prune (hd : d.WellFormed) (hp : d.get? p = some (.file id)) :
    (d.prune p).named? path = d.named? path := by
  have hne : d.get? p ≠ some .directory := by simp [hp]
  have hon := not_leadsOn_of_file hp
  refine Option.ext fun r => ⟨fun hr => ?_, fun hr => ?_⟩
  · obtain ⟨dir, name, slash, hloc, rfl⟩ := named?_eq_some_iff.1 hr
    have hk := (hd.keepsEntries_prune hne).keepsWays
    exact named?_of_locate (locate_mono hk ⟨rfl, rfl, rfl, rfl⟩ hloc)
  · obtain ⟨dir, name, slash, hloc, rfl⟩ := named?_eq_some_iff.1 hr
    exact named?_of_locate (hd.locate_prune hne hon hloc)

theorem prune_prune (d : Disk) (p q : Place) : (d.prune p).prune q = (d.prune q).prune p := by
  simp only [prune, List.filter_filter, Bool.and_comm]

theorem WellFormed.needsOnWay_prune_iff (hd : d.WellFormed) (hp : d.get? p = some (.file id))
    (hq : d.get? q ≠ some .directory) (hne : p ≠ q) :
    (d.prune p).NeedsOnWay path q ↔ d.NeedsOnWay path q := by
  have hp' : (d.prune q).get? p = some (.file id) := by rw [hd.get?_prune hq, if_neg hne, hp]
  rw [NeedsOnWay, NeedsOnWay, hd.named?_prune hp, prune_prune, (hd.prune hq).named?_prune hp']

/-! ## Paths through their own entries -/

/-- **A path leads through the entry that it names**: without the entry it names nothing. -/
def LeadsThroughItself (d : Disk) (path : String) : Prop :=
  ∃ p, d.named? path = some p ∧ (d.prune p).named? path = none

theorem LeadsThroughItself.leadsOn (h : d.LeadsThroughItself path) (hd : d.WellFormed)
    (hloc : d.locate path = .ok (.entry dir name slash))
    (hp : d.get? (dir ++ [name]) ≠ some .directory) : d.LeadsOn (dir ++ [name]) := by
  by_contra hon
  obtain ⟨p, hp', hnone⟩ := h
  obtain rfl := Option.some.inj ((named?_of_locate hloc).symm.trans hp')
  rw [named?_of_locate (hd.locate_prune hp hon hloc)] at hnone
  cases hnone

theorem LeadsThroughItself.prune (h : d.LeadsThroughItself path) (hd : d.WellFormed)
    (hp : d.get? p ≠ some .directory) (hloc : d.locate path = .ok (.entry dir name slash))
    (hq : d.get? (dir ++ [name]) ≠ some .directory)
    (hloc' : (d.prune p).locate path = .ok (.entry dir name slash)) :
    (d.prune p).LeadsThroughItself path := by
  obtain ⟨q, hq', hnone⟩ := h
  obtain rfl := Option.some.inj ((named?_of_locate hloc).symm.trans hq')
  refine ⟨_, named?_of_locate hloc', Option.eq_none_iff_forall_ne_some.2 fun r hr => ?_⟩
  have hk : ((d.prune p).prune (dir ++ [name])).KeepsEntries (d.prune (dir ++ [name])) := by
    intro r e hr
    rw [hd.get?_prune_prune hp hq] at hr
    rw [hd.get?_prune hq]
    split at hr
    · cases hr
    · rename_i hne
      split at hr
      · cases hr
      · rw [if_neg hne, hr]
  obtain ⟨dir', name', slash', hloc'', -⟩ := named?_eq_some_iff.1 hr
  rw [named?_of_locate (locate_mono hk.keepsWays ⟨rfl, rfl, rfl, rfl⟩ hloc'')] at hnone
  cases hnone

theorem not_leadsThroughItself (hd : d.WellFormed)
    (h : d.locate path = .ok (.entry dir name slash))
    (hp : ∀ e, d.get? (dir ++ [name]) = some e → ∃ id, e = .file id) :
    ¬d.LeadsThroughItself path := by
  intro hthrough
  obtain ⟨target, -, -, -, -, hlink, -⟩ :=
    hthrough.leadsOn hd h fun hdir => by simpa using hp _ hdir
  simpa using hp _ hlink

theorem locate_of_not_leadsThroughItself (h : ¬d.LeadsThroughItself path) (hd : d.WellFormed)
    (hloc : d.locate path = .ok (.entry dir name slash))
    (hp : d.get? (dir ++ [name]) ≠ some .directory) :
    (d.prune (dir ++ [name])).locate path = .ok (.entry dir name slash) :=
  locate_of_not_needsOnWay (fun hneeds => h ⟨_, named?_of_locate hloc, hneeds.2⟩) hd hloc hp

theorem Covers.locate_iff (hc : d.Covers d' p) (hd : d.WellFormed) :
    d'.locate path = .ok (.entry dir name slash) ↔
      (d.prune p).locate path = .ok (.entry dir name slash) := by
  have hbase : (d.prune p).SameBase d' :=
    ⟨hc.base.workingDir, hc.base.lost, hc.base.mounts, hc.base.draw⟩
  obtain ⟨hk, hk'⟩ := hc.keepsWays_prune hd
  exact ⟨locate_mono hk' hbase.symm, locate_mono hk hbase⟩

/-- **A path names what it did, or it leads to no directory any more.** -/
theorem Covers.locate_cases (hc : d.Covers d' p) (h : d.locate path = .ok (.entry dir name slash)) :
    d'.locate path = .ok (.entry dir name slash) ∨
      d.LeadsOn p ∧ d'.locate path = .error .notDirectory := by
  obtain ⟨hcheck, hdot, hup, hs, init, left, hinit, hl⟩ := locate_eq_entry_iff.1 h
  refine (hl.of_covers hc).imp (fun hl' => ?_) (.imp_right fun hw => ?_)
  · exact locate_eq_entry_iff.2 ⟨hcheck, hdot, hup, hs, init, left, hinit, hl'⟩
  · simp [locate, hcheck, hinit, hw false ["."] (List.cons_ne_nil _ _)]

theorem Covers.locate_of_not_needsOnWay (hc : d.Covers d' p) (hd : d.WellFormed)
    (h : ¬d.NeedsOnWay path p) (hloc : d.locate path = .ok (.entry dir name slash)) :
    d'.locate path = .ok (.entry dir name slash) :=
  (hc.locate_iff hd).2 (Disk.locate_of_not_needsOnWay h hd hloc hc.notDirectory)

theorem Covers.locate_of_needsOnWay (hc : d.Covers d' p) (hd : d.WellFormed)
    (h : d.NeedsOnWay path p) : d.LeadsOn p ∧ d'.locate path = .error .notDirectory := by
  obtain ⟨hnamed, hnone⟩ := h
  obtain ⟨q, hq⟩ := Option.ne_none_iff_exists'.1 hnamed
  obtain ⟨dir, name, slash, hloc, -⟩ := named?_eq_some_iff.1 hq
  refine (hc.locate_cases hloc).resolve_left fun hfound => ?_
  rw [named?_of_locate ((hc.locate_iff hd).1 hfound)] at hnone
  cases hnone

theorem Covers.locate_of_fileAt (hc : d.Covers d' p)
    (h : d.locate path = .ok (.entry dir name false)) (hf : d'.fileAt path = .ok id) :
    d'.locate path = .ok (.entry dir name false) := by
  obtain ⟨hcheck, hdot, hup, hs, init, left, hinit, hl⟩ := locate_eq_entry_iff.1 h
  have hsteps := (Path.steps_eq_parts hs.symm).trans hinit
  rcases hl.of_covers hc with hl' | ⟨-, hw⟩
  · exact locate_eq_entry_iff.2 ⟨hcheck, hdot, hup, hs, init, left, hinit, hl'⟩
  · rw [fileAt, resolve, hcheck, hsteps] at hf
    simp only [hw false [name] (List.cons_ne_nil _ _)] at hf
    cases hf

theorem Covers.leadsThroughItself_iff (hc : d.Covers d' p) (hd : d.WellFormed)
    (h : d.locate path = .ok (.entry dir name slash)) (hp : p = dir ++ [name]) :
    d.LeadsThroughItself path ↔ d'.locate path ≠ .ok (.entry dir name slash) := by
  subst hp
  rw [ne_eq, hc.locate_iff hd]
  constructor
  · rintro ⟨q, hq, hnone⟩ hloc
    obtain rfl := Option.some.inj ((named?_of_locate h).symm.trans hq)
    rw [named?_of_locate hloc] at hnone
    cases hnone
  · intro hnot
    by_contra hthrough
    exact hnot (locate_of_not_leadsThroughItself hthrough hd h hc.notDirectory)

end Replica.Disk
