import Mathlib.Data.List.Basic
import Replica.Proofs.Transfer.Outcome

/-!
# Transfers to different destinations

Two transfers to different entries can be made in either order, unless one of them puts a file in
the place of a link that the way of the other one leads through.

* `Disk.CoversAtMost`: a file covers what was at one place, or nothing has changed;
* `Call.way`, **`Call.result_attempt_congr`**, **`Call.result_attempt_ne`**: a transfer on such a
  tree has the same result if and only if the directory that it looks for is still there;
* `Transfer.Apart`: transfers to different entries, with the suffixes that they draw;
* **`Transfer.BreaksWay`**, `Transfer.Apart.result_run_iff`: one transfer after another;
* `Transfer.Commute`, **`Transfer.commute_iff`**: both orders;
* `Transfer.link_broken_by_far_path`: two transfers that cannot be made in either order.
-/

namespace Replica

/-! ## Trees with one entry covered -/

namespace Disk

variable {d d' : Disk} {path name : String} {spot : Spot} {p : Place} {p? : Option Place}
  {draw : Nat → String}

/-- **At most what was at one place is covered** by a file. -/
structure CoversAtMost (d d' : Disk) (p? : Option Place) : Prop where
  base : d.SameBase d'
  covers : (∀ p, d'.get? p = d.get? p) ∨ ∃ p, p? = some p ∧ d.Covers d' p

namespace CoversAtMost

theorem refl (d : Disk) : d.CoversAtMost d none := ⟨.refl d, .inl fun _ => rfl⟩

theorem keepsWays (hc : d.CoversAtMost d' p?) : d'.KeepsWays d := by
  rcases hc.covers with hsame | ⟨p, -, hcov⟩
  · exact fun q e _ hq => hsame q ▸ hq
  · exact hcov.keepsWays

theorem get?_eq (hc : d.CoversAtMost d' p?) (h : p? ≠ some p) : d'.get? p = d.get? p := by
  rcases hc.covers with hsame | ⟨q, hq, hcov⟩
  · exact hsame p
  · exact hcov.get?_eq p fun he => h (he ▸ hq)

theorem isDir_eq_false (hc : d.CoversAtMost d' p?) (hd : d.WellFormed) (hd' : d'.WellFormed)
    (h : d.isDir path = false) : d'.isDir path = false := by
  rw [← Bool.not_eq_true] at h ⊢
  exact mt (hd'.isDir_mono hd hc.keepsWays hc.base.symm) h

theorem covers_of_isDir (hc : d.CoversAtMost d' p?) (hd : d.WellFormed) (hd' : d'.WellFormed)
    (h : d.isDir path = true) (h' : d'.isDir path = false) : ∃ p, p? = some p ∧ d.Covers d' p := by
  refine hc.covers.resolve_left fun hsame => ?_
  have hk : d.KeepsWays d' := fun q e _ hq => (hsame q).trans hq
  rw [hd.isDir_mono hd' hk hc.base h] at h'
  cases h'

theorem ensureParentDir_eq (hc : d.CoversAtMost d' p?) (hd : d.WellFormed) (hd' : d'.WellFormed)
    (ho : d.Ordinary path spot name) : (d'.ensureParentDir path).1 = d' := by
  cases hdir : d'.isDir (Path.holder path) with
  | true =>
    have ho' := ho.of_keepsWays hd' hc.keepsWays hc.base hdir
    rw [ho'.ensureParentDir_eq]
  | false =>
    obtain ⟨p, -, hcov⟩ := hc.covers_of_isDir hd hd' ho.isDir_holder hdir
    obtain ⟨e, he⟩ := hcov.ensureParentDir_eq_error hd hd' ho hdir
    rw [he]

end CoversAtMost

/-! ## Other suffixes -/

theorem Ordinary.drawing (ho : d.Ordinary path spot name) (draw : Nat → String) :
    (d.drawing draw).Ordinary path spot name :=
  ⟨resolve_drawing.trans ho.holder_eq, by have := ho.directory; cases spot <;> exact this,
    ho.last_eq, ho.ne_dot, ho.ne_up⟩

/-- **The suffixes that are drawn** have letters and digits alone, are different as long as a name
is looked for, and make none of some names. -/
structure Suffixes (d : Disk) (draw : Nat → String) (names : List String) : Prop where
  alphabet : ∀ n, ∀ c ∈ (draw n).toList, c ∈ suffixAlphabet
  distinct : ((List.range (d.entries.length + 1)).map draw).Nodup
  never : ∀ name ∈ names, ∀ n, tempPrefix ++ draw n ≠ name

end Disk

/-! ## Transfers on such trees -/

namespace Call

variable {c : Call} {d d' : Disk} {name : String} {spot : Spot} {p : Place} {p? : Option Place}

/-- The path to a directory that a transfer finds: to its destination, or else to the directory of
that. -/
def way (c : Call) (d : Disk) : String :=
  if d.isDir c.path then c.path else Path.holder c.path

theorem isDir_way (ho : d.Ordinary c.path spot name) : d.isDir (c.way d) = true := by
  rw [way]
  split
  · assumption
  · exact ho.isDir_holder

/-- **The same result** as long as the directory is found. -/
theorem result_attempt_congr (hc : d.CoversAtMost d' p?) (hd : d.WellFormed) (hd' : d'.WellFormed)
    (ho : d.Ordinary c.path spot name) (hn : d.NeverDraws name)
    (hdistinct : ((List.range (d.entries.length + 1)).map d.draw).Nodup)
    (hfree : ∀ k, ∀ dir : Place, p? ≠ some (dir ++ [tempPrefix ++ d.draw k]))
    (hway : c.IsReady → d'.isDir (c.way d) = true) :
    (c.attempt d').result = (c.attempt d).result := by
  by_cases hr : c.IsReady
  swap
  · rw [result_attempt_of_not_isReady hr d' false (.ok ""),
      result_attempt_of_not_isReady hr d false (.ok "")]
  have hway := hway hr
  rw [way] at hway
  cases hdir : d.isDir c.path with
  | true =>
    rw [hdir, if_pos rfl] at hway
    rw [result_attempt_of_isDir hr hway, result_attempt_of_isDir hr hdir]
  | false =>
    rw [hdir, if_neg Bool.false_ne_true] at hway
    have hdir' := hc.isDir_eq_false hd hd' hdir
    have ho' := ho.of_keepsWays hd' hc.keepsWays hc.base hway
    have hstaged := ho.stagedPath_congr ho' hd hd' hc.base hdistinct fun dir _ k => by
      rw [hc.get?_eq (hfree k dir)]
    rw [result_attempt hd' ho' (hn.of_sameBase hc.base), result_attempt hd ho hn, hdir, hdir',
      hstaged]

/-- **Another result** once the directory is gone. -/
theorem result_attempt_ne (hc : d.CoversAtMost d' p?) (hd : d.WellFormed) (hd' : d'.WellFormed)
    (ho : d.Ordinary c.path spot name) (hn : d.NeverDraws name) (hr : c.IsReady)
    (hway : d'.isDir (c.way d) = false) : (c.attempt d').result ≠ (c.attempt d).result := by
  obtain ⟨p, -, hcov⟩ := hc.covers_of_isDir hd hd' (isDir_way ho) hway
  -- without its directory, the destination is refused as such
  have hgone : d'.isDir c.path = false → d'.isDir (Path.holder c.path) = false →
      ∃ e, (c.attempt d').result = (TransferError.createDestinationDir c.path e).result := by
    intro hdir' hholder
    obtain ⟨e, he⟩ := hcov.ensureParentDir_eq_error hd hd' ho hholder
    exact ⟨e, result_attempt_of_ensureParentDir hr hdir' (by rw [he])⟩
  intro heq
  rw [way] at hway
  cases hdir : d.isDir c.path with
  | true =>
    rw [hdir, if_pos rfl] at hway
    rw [result_attempt_of_isDir hr hdir] at heq
    cases hholder : d'.isDir (Path.holder c.path) with
    | true =>
      have ho' := ho.of_keepsWays hd' hc.keepsWays hc.base hholder
      refine failureKind?_ne_precondition hd' ho' (hn.of_sameBase hc.base) hr hway ?_
      rw [heq, TransferError.failureKind?_result]
      rfl
    | false =>
      obtain ⟨e, he⟩ := hgone hway hholder
      have hreason := congrArg TransferResult.reason? (he.symm.trans heq)
      rw [TransferError.reason?_result, TransferError.reason?_result] at hreason
      have hmessages : "Skipping transfer as we cannot create the destination directory" ≠
          "Skipping transfer as destination exists and is a directory" := by decide +kernel
      exact hmessages (Option.some.inj hreason)
  | false =>
    rw [hdir, if_neg Bool.false_ne_true] at hway
    have hdir' := hc.isDir_eq_false hd hd' hdir
    obtain ⟨e, he⟩ := hgone hdir' hway
    refine failureKind?_ne_precondition hd ho hn hr hdir ?_
    rw [← heq, he, TransferError.failureKind?_result]
    rfl

theorem item?_attempt (hc : d.CoversAtMost d' p?) (hd : d.WellFormed) (hd' : d'.WellFormed)
    (ho : d.Ordinary c.path spot name) (hn : d.NeverDraws name) (p : Place) :
    (c.attempt d').disk.item? p =
      if (c.attempt d').result.isSuccess = true ∧ spot.child? name = some p then
        some (.file c.content)
      else d'.item? p := by
  have hmade := hc.ensureParentDir_eq hd hd' ho
  obtain ⟨-, -, hcases⟩ := c.attempt_cases hd' (ho.name_eq ▸ hn.of_sameBase hc.base)
  rw [hmade] at hcases
  rcases hcases with ⟨⟨e, he⟩, hleft⟩ | ⟨hs, -, q, hdest, hitem, hothers⟩
  · rw [if_neg fun h => by rw [he, e.isSuccess_result] at h; cases h.1]
    rcases hleft with hsame | hsame
    · rw [hsame]
    · exact (hsame p).item?_eq
  · obtain ⟨-, dir, last, slash, hloc, rfl⟩ := Disk.destination?_eq_some_iff.1 hdest
    rw [hmade] at hloc
    have hplace := ho.child?_of_locate hd (Disk.locate_mono hc.keepsWays hc.base.symm hloc)
    by_cases hp : p = dir ++ [last]
    · rw [if_pos ⟨by rw [hs]; rfl, hp ▸ hplace⟩, hp, hitem]
    · rw [if_neg fun h => hp (Option.some.inj (h.2.symm.trans hplace)), (hothers p hp).item?_eq]

end Call

/-! ## Two transfers -/

namespace Transfer

variable {t s : Transfer} {d : Disk} {name name' : String} {spot spot' : Spot}

/-- **A transfer breaks the way** of another one that is ready: the directory that this one finds is
not found after it. -/
def BreaksWay (t s : Transfer) (d : Disk) : Prop :=
  s.IsReady ∧ (t.run d).disk.isDir (s.way d) = false

theorem way_drawing (draw : Nat → String) : t.way (d.drawing draw) = t.way d := by
  rw [Call.way, Call.way, Disk.isDir_drawing]

/-- **Two transfers to different entries**: each destination has a directory that is there and ends
in a name, and no temporary file gets one of these names. -/
structure Apart (t s : Transfer) (d : Disk) (spot spot' : Spot) (name name' : String) : Prop where
  ordinary : d.Ordinary t.path spot name
  ordinary' : d.Ordinary s.path spot' name'
  ne : spot ≠ spot' ∨ name ≠ name'
  suffixes : d.Suffixes t.draw [name, name']
  suffixes' : d.Suffixes s.draw [name, name']

/-- **Two transfers can be made in either order**: each has the same result before and after the
other, and in the end the same is everywhere. -/
structure Commute (t s : Transfer) (d : Disk) : Prop where
  result_eq : (t.run (s.run d).disk).result = (t.run d).result
  result_eq' : (s.run (t.run d).disk).result = (s.run d).result
  item?_eq : ∀ p, (s.run (t.run d).disk).disk.item? p = (t.run (s.run d).disk).disk.item? p

theorem Apart.symm (h : t.Apart s d spot spot' name name') : s.Apart t d spot' spot name' name where
  ordinary := h.ordinary'
  ordinary' := h.ordinary
  ne := h.ne.imp Ne.symm Ne.symm
  suffixes := ⟨h.suffixes'.alphabet, h.suffixes'.distinct,
    fun n hn => h.suffixes'.never n (by simpa [or_comm] using hn)⟩
  suffixes' := ⟨h.suffixes.alphabet, h.suffixes.distinct,
    fun n hn => h.suffixes.never n (by simpa [or_comm] using hn)⟩

theorem Apart.neverDraws (h : t.Apart s d spot spot' name name') :
    (d.drawing t.draw).NeverDraws name ∧ (d.drawing t.draw).NeverDraws name' :=
  ⟨h.suffixes.never name (by simp), h.suffixes.never name' (by simp)⟩

/-- **The first transfer** changes nothing, or a file covers what was at its destination. -/
theorem Apart.covers_run (h : t.Apart s d spot spot' name name') (hd : d.WellFormed) :
    (t.run d).disk.WellFormed ∧ (d.drawing t.draw).SameBase (t.run d).disk ∧
      ((∀ p, (t.run d).disk.get? p = (d.drawing t.draw).get? p) ∨
        (d.drawing t.draw).isDir t.path = false ∧ Disk.misnamed? t.path = none ∧
          ∃ p, spot.child? name = some p ∧ (d.drawing t.draw).Covers (t.run d).disk p) := by
  have hd' := hd.drawing h.suffixes.alphabet
  have ho := h.ordinary.drawing t.draw
  have hn := h.neverDraws.1
  obtain ⟨hwf, hb, -⟩ := t.attempt_cases hd' (ho.name_eq ▸ hn)
  exact ⟨hwf, hb, Call.covers_attempt hd' ho hn⟩

theorem Apart.coversAtMost (h : t.Apart s d spot spot' name name') (hd : d.WellFormed) :
    ((t.run d).disk.drawing s.draw).WellFormed ∧
      (d.drawing s.draw).CoversAtMost ((t.run d).disk.drawing s.draw) (spot.child? name) := by
  obtain ⟨hwf, hb, hcases⟩ := h.covers_run hd
  have hb' : (d.drawing s.draw).SameBase ((t.run d).disk.drawing s.draw) :=
    ⟨hb.workingDir, hb.lost, hb.mounts, rfl⟩
  exact ⟨hwf.drawing h.suffixes'.alphabet, hb', hcases.imp_right fun ⟨_, _, p, hp, hc⟩ =>
    ⟨p, hp, hb', hc.get?_eq, hc.isFile, hc.notDirectory⟩⟩

/-- **The second transfer after the first** has its own result if and only if its way is there. -/
theorem Apart.result_run_iff (h : t.Apart s d spot spot' name name') (hd : d.WellFormed) :
    (s.run (t.run d).disk).result = (s.run d).result ↔ ¬t.BreaksWay s d := by
  obtain ⟨hwf, hc⟩ := h.coversAtMost hd
  have hd' := hd.drawing h.suffixes'.alphabet
  have ho := h.ordinary'.drawing s.draw
  have hn := h.symm.neverDraws.1
  have hway : ((t.run d).disk.drawing s.draw).isDir (s.way (d.drawing s.draw)) =
      (t.run d).disk.isDir (s.way d) := by
    rw [way_drawing, Disk.isDir_drawing]
  constructor
  · rintro heq ⟨hr, hgone⟩
    exact Call.result_attempt_ne hc hd' hwf ho hn hr (hway.trans hgone) heq
  · intro hnot
    refine Call.result_attempt_congr hc hd' hwf ho hn h.suffixes'.distinct (fun k dir hk => ?_)
      fun hr => ?_
    · have hplace : (Spot.place dir).child? (tempPrefix ++ s.draw k) =
          some (dir ++ [tempPrefix ++ s.draw k]) := rfl
      exact h.symm.neverDraws.2 k (Spot.child?_inj hplace hk).2
    · rw [hway]
      by_contra hgone
      exact hnot ⟨hr, by simpa using hgone⟩

theorem Apart.item?_run_run (h : t.Apart s d spot spot' name name') (hd : d.WellFormed)
    (p : Place) :
    (s.run (t.run d).disk).disk.item? p =
      if (s.run (t.run d).disk).result.isSuccess = true ∧ spot'.child? name' = some p then
        some (.file s.content)
      else if (t.run d).result.isSuccess = true ∧ spot.child? name = some p then
        some (.file t.content)
      else d.item? p := by
  obtain ⟨hwf, hc⟩ := h.coversAtMost hd
  have hd₁ := hd.drawing h.suffixes.alphabet
  have hd₂ := hd.drawing h.suffixes'.alphabet
  have hfirst := Call.item?_attempt (.refl _) hd₁ hd₁ (h.ordinary.drawing t.draw) h.neverDraws.1 p
  have hsecond := Call.item?_attempt hc hd₂ hwf (h.ordinary'.drawing s.draw) h.symm.neverDraws.1 p
  exact hsecond.trans (congrArg _ hfirst)

/-- **A way is broken only with too many links**: the destination of the first leads on through a
link, but its own path fails there. -/
theorem Apart.not_breaksWay (h : t.Apart s d spot spot' name name') (hd : d.WellFormed)
    (hlinks : d.resolve t.path ≠ .error .tooManyLinks) : ¬t.BreaksWay s d := by
  rintro ⟨-, hgone⟩
  have hd' := hd.drawing h.suffixes.alphabet
  have ho := h.ordinary.drawing t.draw
  obtain ⟨hwf, hb, hcases⟩ := h.covers_run hd
  have hway : (d.drawing t.draw).isDir (s.way d) = true := by
    rw [Disk.isDir_drawing]
    exact Call.isDir_way h.ordinary'
  rcases hcases with hsame | ⟨hdir, hnamed, p, hp, hc⟩
  · have hk : (d.drawing t.draw).KeepsWays (t.run d).disk := fun q e _ hq => (hsame q).trans hq
    exact Bool.false_ne_true (hgone.symm.trans (hd'.isDir_mono hwf hk hb hway))
  · obtain hthere | hon := hc.isDir_or_leadsOn hd' hwf hway
    · exact Bool.false_ne_true (hgone.symm.trans hthere)
    · obtain ⟨hcheck, hshort, hslash⟩ := Disk.misnamed?_eq_none.1 hnamed
      rw [ho.name_eq] at hshort
      cases spot with
      | removed q => cases hp
      | place dir =>
        obtain rfl := Option.some.inj hp
        have hloc := ho.locate_eq hd' hcheck
        rw [hslash] at hloc
        exact hlinks (Disk.resolve_drawing.symm.trans
          (Disk.resolve_eq_tooManyLinks hd' hdir hloc hshort hon))

/-- **Transfers to different destinations.** Take two transfers to files whose directories are
there, and whose entries are different. They can be made in either order, with the same results and
the same tree in the end, if and only if neither breaks the way of the other. This is so if neither
destination leads through too many links. -/
theorem commute_iff (h : t.Apart s d spot spot' name name') (hd : d.WellFormed) :
    (t.Commute s d ↔ ¬t.BreaksWay s d ∧ ¬s.BreaksWay t d) ∧
      (d.resolve t.path ≠ .error .tooManyLinks → d.resolve s.path ≠ .error .tooManyLinks →
        t.Commute s d) := by
  have hiff : t.Commute s d ↔ ¬t.BreaksWay s d ∧ ¬s.BreaksWay t d := by
    rw [← h.result_run_iff hd, ← h.symm.result_run_iff hd]
    refine ⟨fun hc => ⟨hc.result_eq', hc.result_eq⟩, fun ⟨hs, ht⟩ => ⟨ht, hs, fun p => ?_⟩⟩
    rw [h.item?_run_run hd, h.symm.item?_run_run hd, hs, ht]
    -- a place cannot be that of both entries
    by_cases hp : spot.child? name = some p
    · have hp' : spot'.child? name' ≠ some p := fun hp' =>
        have := Spot.child?_inj hp hp'
        h.ne.elim (fun hne => hne this.1) fun hne => hne this.2
      simp only [hp', and_false, if_false]
    · simp only [hp, and_false, if_false]
  exact ⟨hiff, fun ht hs => hiff.2 ⟨h.not_breaksWay hd ht, h.symm.not_breaksWay hd hs⟩⟩

/-! ## A link that both lead through -/

theorem suffixes_suffix (d : Disk) {names : List String}
    (hdistinct : ((List.range (d.entries.length + 1)).map suffix).Nodup)
    (h : ∀ name ∈ names, ¬tempPrefix.toList <+: name.toList) : d.Suffixes suffix names where
  alphabet := Disk.wellFormed_empty.suffixes
  distinct := hdistinct
  never name hm := Disk.neverDraws_of_not_prefix (d := Disk.empty) (h name hm)

/-- A directory, a link to it, and a link to the root. -/
def linkedTree : Disk :=
  ((Disk.empty.put ["real"] .directory).put ["x"] (.link "real")).put ["s"] (.link ".")

theorem wellFormed_linkedTree : linkedTree.WellFormed := by
  have hreal : (Disk.empty.put ["real"] .directory).WellFormed :=
    Disk.wellFormed_empty.put_root (by decide) (by decide) nofun
  have hx : ((Disk.empty.put ["real"] .directory).put ["x"] (.link "real")).WellFormed :=
    hreal.put_root (by decide) (by decide) nofun
  exact hx.put_root (e := .link ".") (by decide) (by decide) nofun

/-- Two transfers to one directory, one of them through a link. -/
theorem commute_iff_same_directory :
    (threeOctetsTo "/real/a").Apart (threeOctetsTo "/x/b") linkedTree (.place ["real"])
        (.place ["real"]) "a" "b" ∧
      (threeOctetsTo "/real/a").Commute (threeOctetsTo "/x/b") linkedTree := by
  have h : (threeOctetsTo "/real/a").Apart (threeOctetsTo "/x/b") linkedTree (.place ["real"])
      (.place ["real"]) "a" "b" :=
    { ordinary := ⟨by decide +kernel, by decide +kernel, by decide +kernel, by decide, by decide⟩
      ordinary' := ⟨by decide +kernel, by decide +kernel, by decide +kernel, by decide, by decide⟩
      ne := .inr (by decide)
      suffixes := suffixes_suffix _ (by decide +kernel) (by decide +kernel)
      suffixes' := suffixes_suffix _ (by decide +kernel) (by decide +kernel) }
  exact ⟨h, (commute_iff h wellFormed_linkedTree).2 (by decide +kernel) (by decide +kernel)⟩

/-- **A link that one path names and another leads through.** The first path has led through so many
links that the one at its end counts as no directory, so a file takes its place. The second transfer
finds its directory before that, and not after it. -/
theorem link_broken_by_far_path :
    ∃ path, (threeOctetsTo path).Apart (threeOctetsTo "x/blob") linkedTree (.place [])
      (.place ["real"]) "x" "blob" ∧
      ((threeOctetsTo "x/blob").run linkedTree).result.isSuccess = true ∧
      ((threeOctetsTo "x/blob").run ((threeOctetsTo path).run linkedTree).disk).result.isSuccess =
        false ∧
      ¬(threeOctetsTo path).Commute (threeOctetsTo "x/blob") linkedTree := by
  let far : Transfer := threeOctetsTo (String.join (List.replicate 40 "s/") ++ "x")
  have hapart : far.Apart (threeOctetsTo "x/blob") linkedTree (.place []) (.place ["real"])
      "x" "blob" :=
    { ordinary := ⟨by decide +kernel, by decide +kernel, by decide +kernel, by decide, by decide⟩
      ordinary' := ⟨by decide +kernel, by decide +kernel, by decide +kernel, by decide, by decide⟩
      ne := .inl (by decide)
      suffixes := suffixes_suffix _ (by decide +kernel) (by decide +kernel)
      suffixes' := suffixes_suffix _ (by decide +kernel) (by decide +kernel) }
  have hbefore : ((threeOctetsTo "x/blob").run linkedTree).result.isSuccess = true := by
    decide +kernel
  have hafter : ((threeOctetsTo "x/blob").run (far.run linkedTree).disk).result.isSuccess =
      false := by decide +kernel
  refine ⟨_, hapart, hbefore, hafter, fun hc => ?_⟩
  have hsame := congrArg TransferResult.isSuccess hc.result_eq'
  rw [hbefore, hafter] at hsame
  cases hsame

end Transfer

end Replica
