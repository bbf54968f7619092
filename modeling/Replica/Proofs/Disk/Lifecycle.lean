import Mathlib.Data.List.Basic
import Replica.Proofs.Disk.InOrder

/-!
# The life of temporary files

Whatever is done with any number of temporary files, nothing is left of them but what was promoted,
unless a promotion puts a file in the place of a link that a path still needs.

* `Session.Allows`: what may be done with them, and which names may be drawn;
* **`Session.Faithful`**: the files hold what was written to them, each of them can be closed without
  a trace, and all else in the tree is what was promoted there last, or what was there before;
* `Session.Breaks`, `InOrder.perform`, **`InOrder.not_faithful_of_breaks`**: one step;
* `InOrder.faithful_iff`: a run;
* **`lifecycle_iff`**, `promoted_file_not_closed`.
-/

namespace Replica.Session

open Disk

variable {start : Disk} {s : Session} {id : Nat} {u : LiveTemp} {dir p q : Place}
  {path dest name : String} {step : Step} {steps : List Step}

/-! ## What is done, and what it leaves -/

/-- **What may be done** with temporary files: none is written after it was promoted, and none is
promoted to the path of one. Suffixes have letters and digits alone. They make neither the name of a
destination nor that of a file that was promoted and is not closed. -/
def Allows (s : Session) : Step → Prop
  | .create draw dir options =>
    (∀ n, ∀ c ∈ (draw n).toList, c ∈ suffixAlphabet) ∧
      ∀ id u, s.live id = some u → u.isPromoted = true →
        (s.disk.drawing draw).NeverTries dir options.beginning (Path.name u.file.path)
  | .append id _ => ∀ u, s.live id = some u → u.isPromoted = false
  | .promote draw _ dest =>
    (∀ n, ∀ c ∈ (draw n).toList, c ∈ suffixAlphabet) ∧
      (s.disk.drawing draw).NeverDraws (Path.name dest) ∧ ¬s.IsStagingPath dest
  | .close _ => True
  | .drop _ => True

/-- **A step breaks a way**: a promotion does. -/
def Breaks (s : Session) : Step → Prop
  | .promote draw id dest => ∃ u, s.live id = some u ∧ (s.drawing draw).BreaksWay u dest
  | _ => False

/-- The path of a destination runs into too many links. -/
def RunsIntoLinks (s : Session) : Step → Prop
  | .promote _ _ dest => s.disk.resolve dest = .error .tooManyLinks
  | _ => False

/-- **Before every step of a run** something holds of the session and the step. -/
def Along (P : Session → Step → Prop) : Session → List Step → Prop
  | _, [] => True
  | s, step :: rest => P s step ∧ Along P (s.perform step) rest

/-- **The files are what was made of them.** -/
structure Faithful (start : Disk) (s : Session) : Prop where
  /-- They have paths of their own, which name entries of their own. -/
  distinct : ∀ {id id' u u'}, s.live id = some u → s.live id' = some u' → id ≠ id' →
    u.file.path ≠ u'.file.path ∧ s.disk.named? u.file.path ≠ s.disk.named? u'.file.path
  /-- Nothing had the path of one when it was made. -/
  fresh : ∀ {id u}, s.live id = some u → u.before.Vacant u.file.path
  /-- Until it is promoted, it is a regular file with what was written to it. -/
  holds : ∀ {id u}, s.live id = some u → u.isPromoted = false →
    ∃ p, s.disk.named? u.file.path = some p ∧ s.disk.item? p = some (.file u.written)
  size : ∀ {id u}, s.live id = some u → u.isPromoted = false →
    s.disk.tempSize u.file = u.written.length
  /-- It can be closed and dropped, and then nothing has its path. -/
  closes : ∀ {id u}, s.live id = some u →
    (s.disk.closeTemp u.file).2 = .ok () ∧ (s.disk.closeTemp u.file).1.Vacant u.file.path ∧
      (s.disk.dropTemp u.file).Vacant u.file.path
  /-- All else in the tree, and so the whole tree when all are closed, is as it was but for the
  destinations, and there is what was promoted there last. -/
  elsewhere : ∀ q, ¬s.Stages q → s.disk.item? q = s.expected start q

/-! ## One step -/

theorem named?_drawing_eq {draw : Nat → String} :
    (s.drawing draw).disk.named? path = s.disk.named? path := named?_drawing

theorem isStagingPath_drawing {draw : Nat → String} :
    (s.drawing draw).IsStagingPath dest ↔ s.IsStagingPath dest := by
  simp only [IsStagingPath, InOrder.placeOf_drawing, named?_drawing_eq]

namespace InOrder

theorem faithful (h : s.InOrder start) : s.Faithful start where
  distinct {id id' u u'} hu hu' hne := by
    obtain ⟨-, dir, name, hst⟩ := h.stands hu
    have hplaces : s.disk.named? u.file.path ≠ s.disk.named? u'.file.path := fun heq =>
      hne (h.distinct (placeOf_eq hu hst)
        (placeOf_eq_some_iff.2 ⟨u', hu', heq.symm.trans hst.named?_eq⟩))
    exact ⟨fun heq => hplaces (congrArg _ heq), hplaces⟩
  fresh hu := by
    obtain ⟨-, _, _, hst⟩ := h.stands hu
    exact hst.vacant
  holds hu hpromoted := by
    obtain ⟨-, dir, name, hst⟩ := h.stands hu
    refine ⟨_, hst.named?_eq, ?_⟩
    simp only [item?, hst.entry_eq_file hpromoted, Option.map_some, hst.content_eq hpromoted]
  size hu hpromoted := by
    obtain ⟨-, dir, name, hst⟩ := h.stands hu
    rw [tempSize, hst.content_eq hpromoted]
  closes hu := by
    obtain ⟨-, dir, name, hst⟩ := h.stands hu
    have hvacant := hst.vacant_closeTemp h.wellFormed
    exact ⟨by rw [hst.closeTemp_eq], hvacant, hvacant⟩
  elsewhere := h.elsewhere

/-- **A step that breaks no way** leaves the session in order. -/
theorem perform (h : s.InOrder start) (ha : s.Allows step) (hb : ¬s.Breaks step) :
    (s.perform step).InOrder start := by
  cases step with
  | create draw dir options => exact (h.drawing ha.1).create ha.2
  | append id bs => exact h.append ha
  | promote draw id dest =>
    obtain ⟨hdraw, hn, hdest⟩ := ha
    exact (h.drawing hdraw).promote hn (mt isStagingPath_drawing.1 hdest)
      fun u hu hbreaks => hb ⟨u, hu, hbreaks⟩
  | close id => exact h.close id
  | drop id => exact h.close id

theorem not_faithful_of_locate {s' : Session} (hu : s'.live id = some u)
    (hlost : s'.disk.locate u.file.path = .error .notDirectory) : ¬s'.Faithful start := by
  intro hfaithful
  have hunlink : s'.disk.unlink u.file.path = .error .notDirectory := by simp [unlink, hlost]
  have hclosed := (hfaithful.closes hu).1
  rw [closeTemp, hunlink] at hclosed
  cases hclosed

/-- **What a promotion that breaks a way comes to.** -/
theorem breaksWay_cases (h : s.InOrder start) (hn : s.disk.NeverDraws (Path.name dest))
    (hdest : ¬s.IsStagingPath dest) (hu : s.live id = some u) (hb : s.BreaksWay u dest) :
    ∃ q, s.disk.ReceivesAt dest q ∧ s.disk.LeadsOn q ∧
      ((∃ d e, s.disk.replaceFile u.file.path dest = (d, .error e) ∧ s.disk.Covers d q) ∨
        ∃ d left k v, s.disk.replaceFile u.file.path dest = (d, .ok left) ∧ s.live k = some v ∧
          d.locate v.file.path = .error .notDirectory) := by
  obtain ⟨-, dir, name, hst⟩ := h.stands hu
  rcases h.promote_cases hn hdest hu hst with
    ⟨d, e, q, heq, -, hq, hon, hcovers⟩ | ⟨hwhole, hcases⟩
  · exact ⟨q, hq, hon, .inl ⟨d, e, heq, hcovers⟩⟩
  obtain ⟨⟨left, hok⟩, q', k, v, hq', hv, hneeds⟩ := hb.resolve_left hwhole
  rcases hcases with ⟨d, e, heq, -⟩ | ⟨d, left, q, heq, -, hq, hlost, -⟩
  · rw [heq] at hok
    cases hok
  · obtain rfl := Option.some.inj (hq.named?_eq.symm.trans hq')
    exact ⟨q, hq, (hlost _ hneeds).1, .inr ⟨d, left, k, v, heq, hv, (hlost _ hneeds).2⟩⟩

theorem not_faithful_of_breaksWay (h : s.InOrder start) (hn : s.disk.NeverDraws (Path.name dest))
    (hdest : ¬s.IsStagingPath dest) (hu : s.live id = some u) (hb : s.BreaksWay u dest) :
    ¬(s.promote id dest).Faithful start := by
  obtain ⟨q, hq, hon, ⟨d, e, heq, hcovers⟩ | ⟨d, left, k, v, heq, hv, hlost⟩⟩ :=
    h.breaksWay_cases hn hdest hu hb
  · -- the copy is there, but nothing was promoted
    simp only [Session.promote, hu, heq]
    intro hfaithful
    have hstages : ∀ k v, s.live k = some v → s.disk.named? v.file.path ≠ some q :=
      fun k v hv hvq => hdest ⟨k, q, placeOf_eq_some_iff.2 ⟨v, hv, hvq⟩, hq.named?_eq⟩
    have hbefore : s.disk.item? q = s.expected start q := by
      refine h.elsewhere q ?_
      rintro ⟨k, v, hv, -, hvq⟩
      exact hstages k v hv hvq
    have hafter : d.item? q = s.expected start q := by
      refine hfaithful.elsewhere q ?_
      rintro ⟨k, v, hv, -, hvq⟩
      exact hstages k v hv (hcovers.keepsWays.named? hcovers.base hvq)
    obtain ⟨target, -, -, -, -, hlink, -⟩ := hon
    obtain ⟨k, hfile⟩ := hcovers.isFile
    rw [← hbefore, item?, item?, hfile, hlink] at hafter
    cases hafter
  · -- the path of a file is lost, and it is the same if that file was promoted
    simp only [Session.promote, hu, heq]
    by_cases hk : k = id
    · subst hk
      obtain rfl := Option.some.inj (hu.symm.trans hv)
      have hlive : (s.deliver k u dest d).live k = some { u with isPromoted := true } :=
        Function.update_self ..
      exact not_faithful_of_locate hlive hlost
    · exact not_faithful_of_locate (update_eq_some_iff.2 (.inr ⟨hk, hv⟩)) hlost

/-- **A step that breaks a way** leaves a file that cannot be closed, or a copy that was not
promoted. -/
theorem not_faithful_of_breaks (h : s.InOrder start) (ha : s.Allows step) (hb : s.Breaks step) :
    ¬(s.perform step).Faithful start := by
  cases step with
  | promote draw id dest =>
    obtain ⟨hdraw, hn, hdest⟩ := ha
    obtain ⟨u, hu, hbreaks⟩ := hb
    exact (h.drawing hdraw).not_faithful_of_breaksWay hn (mt isStagingPath_drawing.1 hdest) hu hbreaks
  | create | append | close | drop => cases hb

/-- **A promotion that breaks a way** has a destination whose path runs into too many links. -/
theorem runsIntoLinks_of_breaks (h : s.InOrder start) (ha : s.Allows step) (hb : s.Breaks step) :
    s.RunsIntoLinks step := by
  cases step with
  | promote draw id dest =>
    obtain ⟨hdraw, hn, hdest⟩ := ha
    obtain ⟨u, hu, hbreaks⟩ := hb
    have hs := h.drawing hdraw
    obtain ⟨q, hq, hon, -⟩ :=
      hs.breaksWay_cases hn (mt isStagingPath_drawing.1 hdest) hu hbreaks
    exact resolve_drawing.symm.trans (hq.resolve_eq hs.wellFormed hon)
  | create | append | close | drop => cases hb

/-! ## A run -/

/-- **A run is faithful throughout** if and only if no step breaks a way. -/
theorem faithful_iff (h : s.InOrder start) (ha : Along Allows s steps) :
    (∀ before, before <+: steps → (s.run before).Faithful start) ↔
      Along (fun s step => ¬s.Breaks step) s steps := by
  induction steps generalizing s with
  | nil =>
    refine ⟨fun _ => trivial, fun _ before hbefore => ?_⟩
    rw [List.prefix_nil.1 hbefore]
    exact h.faithful
  | cons step rest ih =>
    by_cases hb : s.Breaks step
    · refine ⟨fun hall => absurd (hall [step] ?_) (h.not_faithful_of_breaks ha.1 hb),
        fun hnot => absurd hb hnot.1⟩
      exact List.prefix_append [step] rest
    · rw [Along, ← ih (h.perform ha.1 hb) ha.2]
      refine ⟨fun hall => ⟨hb, fun before hbefore => ?_⟩, fun hrest before hbefore => ?_⟩
      · exact hall (step :: before) (List.cons_prefix_cons.2 ⟨rfl, hbefore⟩)
      · cases before with
        | nil => exact h.faithful
        | cons step' before =>
          obtain ⟨rfl, hbefore'⟩ := List.cons_prefix_cons.1 hbefore
          exact hrest.2 before hbefore'

theorem not_breaks_of_links (h : s.InOrder start) (ha : Along Allows s steps)
    (hlinks : Along (fun s step => ¬s.RunsIntoLinks step) s steps) :
    Along (fun s step => ¬s.Breaks step) s steps := by
  induction steps generalizing s with
  | nil => trivial
  | cons step rest ih =>
    have hb : ¬s.Breaks step := fun hb => hlinks.1 (h.runsIntoLinks_of_breaks ha.1 hb)
    exact ⟨hb, ih (h.perform ha.1 hb) ha.2 hlinks.2⟩

end InOrder

/-- **The life of temporary files.** Before and after every step of a run, the files hold what was
written to them, can be closed without a trace, and all else is what was promoted there last or what
was there before, if and only if no promotion puts a file in the place of a link that the path of a
live file, or its own path, still needs. That is so if no destination runs into too many links. -/
theorem lifecycle_iff (hd : start.WellFormed) (ha : Along Allows (new start) steps) :
    ((∀ before, before <+: steps → ((new start).run before).Faithful start) ↔
      Along (fun s step => ¬s.Breaks step) (new start) steps) ∧
    (Along (fun s step => ¬s.RunsIntoLinks step) (new start) steps →
      ∀ before, before <+: steps → ((new start).run before).Faithful start) := by
  have h := inOrder_new hd
  exact ⟨h.faithful_iff ha, fun hlinks => (h.faithful_iff ha).2 (h.not_breaks_of_links ha hlinks)⟩

/-! ## The life of one file -/

/-- A file is made, written, promoted and closed. -/
def life (id : Nat) (dir : String) (bs : Bytes) (dest : String) : List Step :=
  [.create suffix dir {}, .append id bs, .promote suffix id dest, .close id]

theorem live_create_cases {parent : String} {options : TempOptions}
    (hu : (s.create parent options).live id = some u) :
    s.live id = some u ∨ id = s.disk.files.length ∧ u.isPromoted = false := by
  rw [create] at hu
  split at hu
  · exact .inl hu
  · rename_i hnew
    obtain ⟨-, _, _, hs⟩ := staged_of_createTemp hnew
    obtain ⟨rfl, heq⟩ | ⟨-, hu⟩ := update_eq_some_iff.1 hu
    · obtain rfl := Option.some.inj heq
      exact .inr ⟨hs.id_eq, rfl⟩
    · exact .inl hu

theorem live_append {k : Nat} {bs : Bytes} (hne : k ≠ id) : (s.append id bs).live k = s.live k := by
  rw [append]
  split
  · rfl
  · exact Function.update_of_ne hne _ _

theorem allows_life {d : Disk} {bs : Bytes} (hname : ¬tempPrefix.toList <+: (Path.name dest).toList)
    (hdest : ∀ p, (((new d).perform (.create suffix path {})).append d.files.length bs).placeOf
        d.files.length = some p →
      (((new d).perform (.create suffix path {})).append d.files.length bs).disk.named? dest ≠
        some p) :
    Along Allows (new d) (life d.files.length path bs dest) := by
  have hdraw : ∀ n, ∀ c ∈ (suffix n).toList, c ∈ suffixAlphabet := wellFormed_empty.suffixes
  have hcreated : ∀ {id u}, ((new d).perform (.create suffix path {})).live id = some u →
      id = d.files.length ∧ u.isPromoted = false :=
    fun hu => (live_create_cases hu).resolve_left nofun
  refine ⟨⟨hdraw, nofun⟩, fun u hu => (hcreated hu).2, ⟨hdraw, neverDraws_of_not_prefix hname, ?_⟩,
    trivial, trivial⟩
  rintro ⟨k, p, hp, hnamed⟩
  by_cases hk : k = d.files.length
  · subst hk
    exact hdest p hp hnamed
  · obtain ⟨u, hu, -⟩ := placeOf_eq_some_iff.1 hp
    exact hk (hcreated ((live_append hk).symm.trans hu)).1

/-- A file that is promoted to another file system, by a copy. -/
theorem lifecycle_iff_two_systems :
    twoSystems.WellFormed ∧ Along Allows (new twoSystems) (life 1 "/" [7] "/m/d") ∧
      Along (fun s step => ¬s.RunsIntoLinks step) (new twoSystems) (life 1 "/" [7] "/m/d") ∧
      ((new twoSystems).run (life 1 "/" [7] "/m/d")).Faithful twoSystems := by
  have hdest : (((new twoSystems).perform (.create suffix "/" {})).append 1 [7]).placeOf 1 ≠
      (((new twoSystems).perform (.create suffix "/" {})).append 1 [7]).disk.named? "/m/d" := by
    decide +kernel
  have hallows : Along Allows (new twoSystems) (life 1 "/" [7] "/m/d") :=
    allows_life (by decide +kernel) fun p hp hnamed => hdest (hp.trans hnamed.symm)
  have hresolve : (((new twoSystems).perform (.create suffix "/" {})).append 1 [7]).disk.resolve
      "/m/d" ≠ .error .tooManyLinks := by decide +kernel
  have hlinks : Along (fun s step => ¬s.RunsIntoLinks step) (new twoSystems)
      (life 1 "/" [7] "/m/d") := ⟨not_false, not_false, hresolve, not_false, trivial⟩
  exact ⟨wellFormed_twoSystems, hallows, hlinks,
    (lifecycle_iff wellFormed_twoSystems hallows).2 hlinks _ List.prefix_rfl⟩

/-- **A file that was promoted and cannot be closed.** It is in the place of the link through which
its own path went. -/
theorem promoted_file_not_closed :
    twoSystems.WellFormed ∧ Along Allows (new twoSystems) (life 1 "/m/x" [7] farPath) ∧
      (∃ u, ((new twoSystems).run ((life 1 "/m/x" [7] farPath).take 3)).live 1 = some u ∧
        u.isPromoted = true ∧
        (((new twoSystems).run ((life 1 "/m/x" [7] farPath).take 3)).disk.closeTemp
          u.file).2 ≠ .ok ()) ∧
      ¬∀ before, before <+: life 1 "/m/x" [7] farPath →
        ((new twoSystems).run before).Faithful twoSystems := by
  have hdest : (((new twoSystems).perform (.create suffix "/m/x" {})).append 1 [7]).placeOf 1 ≠
      (((new twoSystems).perform (.create suffix "/m/x" {})).append 1 [7]).disk.named? farPath := by
    decide +kernel
  have hpromoted : (((new twoSystems).run ((life 1 "/m/x" [7] farPath).take 3)).live 1).map
      (fun u => (u.isPromoted, (((new twoSystems).run
        ((life 1 "/m/x" [7] farPath).take 3)).disk.closeTemp u.file).2.isOk)) =
      some (true, false) := by decide +kernel
  obtain ⟨u, hu, hclosed⟩ := Option.map_eq_some_iff.1 hpromoted
  obtain ⟨hisPromoted, hfails⟩ := Prod.mk.inj hclosed
  have hnot : (((new twoSystems).run ((life 1 "/m/x" [7] farPath).take 3)).disk.closeTemp
      u.file).2 ≠ .ok () := by
    intro hok
    rw [hok] at hfails
    cases hfails
  refine ⟨wellFormed_twoSystems, ?_, ⟨u, hu, hisPromoted, hnot⟩, fun hall => ?_⟩
  · exact allows_life (by decide +kernel) fun p hp hnamed => hdest (hp.trans hnamed.symm)
  · exact hnot ((hall _ (List.take_prefix _ _)).closes hu).1

end Replica.Session
