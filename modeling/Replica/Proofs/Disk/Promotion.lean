import Mathlib.Data.List.Basic
import Replica.Proofs.Disk.Delivery

/-!
# A file that replaces another

What a tree is like after a regular file was to replace what another path names: it is given back,
or the content of the file stands at the other place.

* `ReceivesAt`: the place where a destination takes a file, and `ReceivesAt.resolve_eq`;
* `MovesTo`: the content of a file stands at another place, and nothing at its own;
* **`replaceFile_file_cases`**: the two, and a file that is left where its path needs what it has
  replaced;
* `replaceFile_halfway`: a copy that has taken its place although replacing the file has failed;
* `replaceFile_of_none`: where there is no file, nothing changes.
-/

namespace Replica.Disk

variable {d d' d₂ d₃ : Disk} {dir p q r : Place} {path src dest name : String} {id : Nat}
  {temp : TempFile} {left : Option IoError}

/-! ## Destinations -/

/-- **A path takes a file at a place**: it names an entry there, and leads to no directory. -/
structure ReceivesAt (d : Disk) (dest : String) (q : Place) : Prop where
  isDir_eq : d.isDir dest = false
  located : ∃ dir name, d.locate dest = .ok (.entry dir name false) ∧ isTooLong name = false ∧
    q = dir ++ [name]

namespace ReceivesAt

theorem named?_eq (h : d.ReceivesAt dest q) : d.named? dest = some q := by
  obtain ⟨dir, name, hloc, -, rfl⟩ := h.located
  exact named?_of_locate hloc

theorem ne (h : d.ReceivesAt dest q) (hne : d.named? dest ≠ some p) : p ≠ q :=
  fun heq => hne (heq ▸ h.named?_eq)

theorem get?_ne (h : d.ReceivesAt dest q) (hd : d.WellFormed) : d.get? q ≠ some .directory := by
  obtain ⟨dir, name, hloc, hshort, rfl⟩ := h.located
  exact (hd.ordinary_of_locate hloc).get?_ne_directory hd (locate_eq_entry_iff.1 hloc).1 hshort
    h.isDir_eq

theorem resolve_eq (h : d.ReceivesAt dest q) (hd : d.WellFormed) (hon : d.LeadsOn q) :
    d.resolve dest = .error .tooManyLinks := by
  obtain ⟨dir, name, hloc, hshort, rfl⟩ := h.located
  exact resolve_eq_tooManyLinks hd h.isDir_eq hloc hshort hon

end ReceivesAt

theorem Renames.receivesAt {srcDir destDir : Place} {srcName destName : String} {e : Entry}
    (h : d.Renames d' src dest srcDir srcName destDir destName e) (he : e ≠ .directory)
    (hdir : d.isDir dest = false) : d.ReceivesAt dest (destDir ++ [destName]) := by
  obtain ⟨slash, hloc, hslash⟩ := h.destination
  exact ⟨hdir, destDir, destName, hslash he ▸ hloc, h.destination_short, rfl⟩

/-! ## Moved files -/

/-- **The content of a file stands at another place**: the file itself, or a new one. -/
structure MovesTo (d d' : Disk) (p q : Place) (id : Nat) : Prop where
  wellFormed : d'.WellFormed
  files_le : d.files.length ≤ d'.files.length
  body_eq : ∀ k < d.files.length, d'.body k = d.body k
  covers : (d.prune p).Covers d' q
  holds : ∃ k, d'.get? q = some (.file k) ∧ (k = id ∨ d.files.length ≤ k) ∧
    d'.content k = d.content id

namespace MovesTo

theorem get?_eq (h : d.MovesTo d' p q id) (hd : d.WellFormed) (hp : d.get? p ≠ some .directory)
    (hr : r ≠ q) : d'.get? r = if r = p then none else d.get? r := by
  rw [h.covers.get?_eq r hr, hd.get?_prune hp]

theorem locate_eq (h : d.MovesTo d' p q id) (hd : d.WellFormed)
    (hp : d.get? p = some (.file id)) (hq : d.get? q ≠ some .directory) (hne : p ≠ q) {slash : Bool}
    (hloc : d.locate path = .ok (.entry dir name slash)) (hfree : ¬d.NeedsOnWay path q) :
    d'.locate path = .ok (.entry dir name slash) := by
  have hp' : d.get? p ≠ some .directory := by simp [hp]
  have hnamed : (d.prune p).named? path = some (dir ++ [name]) := by
    rw [hd.named?_prune hp, named?_of_locate hloc]
  obtain ⟨dir', name', slash', hloc', -⟩ := named?_eq_some_iff.1 hnamed
  have hsame := locate_mono (hd.keepsEntries_prune hp').keepsWays ⟨rfl, rfl, rfl, rfl⟩ hloc'
  rw [Except.ok.inj (hloc.symm.trans hsame)]
  exact h.covers.locate_of_not_needsOnWay (hd.prune hp')
    (mt (hd.needsOnWay_prune_iff hp hq hne).1 hfree) hloc'

theorem locate_of_needsOnWay (h : d.MovesTo d' p q id) (hd : d.WellFormed)
    (hp : d.get? p = some (.file id)) (hq : d.get? q ≠ some .directory) (hne : p ≠ q)
    (hneeds : d.NeedsOnWay path q) : d.LeadsOn q ∧ d'.locate path = .error .notDirectory := by
  have hp' : d.get? p ≠ some .directory := by simp [hp]
  have hk := (hd.keepsEntries_prune hp').keepsWays
  exact (h.covers.locate_of_needsOnWay (hd.prune hp')
    ((hd.needsOnWay_prune_iff hp hq hne).2 hneeds)).imp_left (·.mono hk)

end MovesTo

/-- **A file that was moved** stands at the destination. -/
theorem Renames.movesTo {srcDir destDir : Place} {srcName destName : String}
    (h : d.Renames d' src dest srcDir srcName destDir destName (.file id)) (hd : d.WellFormed)
    (hsole : d.get? (destDir ++ [destName]) ≠ some (.file id)) :
    d.MovesTo d' (srcDir ++ [srcName]) (destDir ++ [destName]) id := by
  have hfiles : d'.files = d.files := by
    cases h.moves with
    | stays => rfl
    | entry => rfl
    | directory _ _ hdir => cases hdir
  refine ⟨(h.wellFormed hd nofun).1, hfiles ▸ Nat.le_refl _, fun k _ => h.moves.body_eq k,
    h.covers hd hsole, id, ?_, .inl rfl, ?_⟩
  · rw [h.get?_eq hd nofun, if_pos rfl]
  · rw [content, h.moves.body_eq, content]

/-! ## Copied files -/

theorem unlinkOrKeep_of_file (hloc : d.locate path = .ok (.entry dir name false))
    (hshort : isTooLong name = false) (hfile : d.get? (dir ++ [name]) = some (.file id)) :
    (d.unlinkOrKeep path).1 = d.prune (dir ++ [name]) := by
  simp [unlinkOrKeep, unlink, hloc, hshort, hfile]

theorem unlinkOrKeep_of_error {e : IoError} (h : d.locate path = .error e) :
    (d.unlinkOrKeep path).1 = d := by
  simp [unlinkOrKeep, unlink, h]

theorem Covers.prune (hc : d.Covers d' q) (hd : d.WellFormed) (hd' : d'.WellFormed)
    (hp : d.get? p ≠ some .directory) (hne : p ≠ q) : (d.prune p).Covers (d'.prune p) q := by
  have hp' : d'.get? p ≠ some .directory := by rwa [hc.get?_eq p hne]
  obtain ⟨id, hid⟩ := hc.isFile
  refine ⟨⟨hc.base.workingDir, hc.base.lost, hc.base.mounts, hc.base.draw⟩, fun r hr => ?_,
    ⟨id, ?_⟩, ?_⟩
  · rw [hd'.get?_prune hp', hd.get?_prune hp, hc.get?_eq r hr]
  · rw [hd'.get?_prune hp', if_neg hne.symm, hid]
  · rw [hd.get?_prune hp, if_neg hne.symm]
    exact hc.notDirectory

/-- **A file that was copied** stands at the destination, and its own path is removed, unless that
path needs what the copy has replaced. -/
theorem CopiedOver.movesTo (h : d.CopiedOver src dest temp d₂) (hd : d.WellFormed)
    (hdir : d.isDir dest = false) (hn : d.NeverDraws (Path.name dest))
    (hnew : d.createTemp ((Path.parent? dest).getD ".") {} = .ok (d₁, temp))
    (hclosed : d₂.closeTemp temp = (d₃, .ok ()))
    (hloc : d.locate src = .ok (.entry dir name false)) (hshort : isTooLong name = false)
    (hfile : d.get? (dir ++ [name]) = some (.file id))
    (hne : d.named? dest ≠ some (dir ++ [name])) :
    ∃ q, d.ReceivesAt dest q ∧ (d.MovesTo (d₃.unlinkOrKeep src).1 (dir ++ [name]) q id ∨
      d.NeedsOnWay src q ∧ d.Covers (d₃.unlinkOrKeep src).1 q) := by
  cases h with
  | stays hdest hmade => exact absurd rfl (hmade.name_ne hd hn hnew hdest)
  | @moved _ d' destDir tmp last id' hdest hdestShort hnot hlast hmade hid _ hcopied hgraft =>
    have hcovers := hcopied.covers_graft hd hnot hlast
    obtain ⟨hd₂, -⟩ := hcopied.graft_sameAt hd hdest hnot hlast
    rw [← hgraft] at hcovers hd₂
    obtain rfl : d₂ = d₃ := by
      rcases closeTemp_moved hd hnew hdest hcopied hnot hlast hgraft with
        ⟨-, hclosed'⟩ | ⟨-, -, hclosed'⟩
      · exact (Prod.mk.inj (hclosed'.symm.trans hclosed)).1
      · cases hclosed'.symm.trans hclosed
    -- what was copied is the content of the file
    have hsrc := fileAt_mono hmade.keepsEntries hmade.base (fileAt_of_locate hloc hshort hfile)
    obtain rfl := Except.ok.inj (hid.symm.trans hsrc)
    have hbody : ∀ k < d.files.length, d₂.body k = d.body k := fun k hk => by
      rw [hgraft, body_graft, hcopied.body_of_lt hk]
    have hcopy : d₂.content temp.id = d.content id' := by
      rw [hgraft, content_graft, content, hcopied.body_eq, content, content,
        hmade.body_of_lt (hd.numbered hfile)]
    have hget : d₂.get? (destDir ++ [last]) = some (.file temp.id) := by
      rw [hgraft, hcopied.get?_graft hd hnot hlast, if_pos rfl]
    have hp : d.get? (dir ++ [name]) ≠ some .directory := by simp [hfile]
    have hpq : dir ++ [name] ≠ destDir ++ [last] := fun heq =>
      hne (heq ▸ named?_of_locate hdest)
    refine ⟨_, ⟨hdir, destDir, last, hdest, hdestShort, rfl⟩, ?_⟩
    by_cases hneeds : d.NeedsOnWay src (destDir ++ [last])
    · right
      rw [unlinkOrKeep_of_error (hcovers.locate_of_needsOnWay hd hneeds).2]
      exact ⟨hneeds, hcovers⟩
    · left
      have hloc₂ := hcovers.locate_of_not_needsOnWay hd hneeds hloc
      have hfile₂ : d₂.get? (dir ++ [name]) = some (.file id') := by
        rw [hcovers.get?_eq _ hpq, hfile]
      have hp₂ : d₂.get? (dir ++ [name]) ≠ some .directory := by simp [hfile₂]
      rw [unlinkOrKeep_of_file hloc₂ hshort hfile₂]
      refine ⟨hd₂.prune hp₂, ?_, fun k hk => (body_prune k).trans (hbody k hk),
        hcovers.prune hd hd₂ hp hpq, temp.id, ?_, .inr (Nat.le_of_eq hcopied.id_eq.symm), ?_⟩
      · simp [Disk.prune, hgraft, graft, hcopied.files]
      · rw [hd₂.get?_prune hp₂, if_neg hpq.symm, hget]
      · rw [content_prune, hcopy]

/-! ## Replacing a file by a file -/

section File

variable (hd : d.WellFormed) (hloc : d.locate src = .ok (.entry dir name false))

include hd hloc

/-- **What replacing a file does with a regular file**: all is given back, or the content of the
file stands at the destination. Then nothing is where it was, unless its path needs what it has
replaced. Whatever path needs that leads nowhere. -/
theorem replaceFile_file_cases (hshort : isTooLong name = false)
    (hfile : d.get? (dir ++ [name]) = some (.file id)) (hn : d.NeverDraws (Path.name dest))
    (hsole : ∀ q, d.get? q = some (.file id) → q = dir ++ [name])
    (hne : d.named? dest ≠ some (dir ++ [name]))
    (hwhole : ¬(d.CopiesOver src dest ∧ d.LeadsThroughItself dest)) :
    (∃ d' e, d.replaceFile src dest = (d', .error e) ∧ d.GivesBack d') ∨
      ∃ d' left q, d.replaceFile src dest = (d', .ok left) ∧ d.ReceivesAt dest q ∧
        (∀ path, d.NeedsOnWay path q → d.LeadsOn q ∧ d'.locate path = .error .notDirectory) ∧
        (d.MovesTo d' (dir ++ [name]) q id ∨ d.NeedsOnWay src q) := by
  cases hdir : d.isDir dest with
  | true => exact .inl ⟨d, _, by rw [replaceFile, if_pos hdir], .refl d⟩
  | false =>
    have hp : d.get? (dir ++ [name]) ≠ some .directory := by simp [hfile]
    by_cases hcopies : d.CopiesOver src dest
    · -- the file is copied
      obtain ⟨d₁, temp, d₂, hnew, hcopied, heq⟩ := replaceFile_of_copiesOver hd hcopies
      obtain ⟨hthrough, -⟩ | ⟨-, d₃, hclosed, -⟩ := replaceFile_copied hd hnew hcopied
      · exact absurd ⟨hcopies, hthrough⟩ hwhole
      obtain ⟨q, hq, hmoved⟩ :=
        hcopied.movesTo hd hdir hn hnew hclosed hloc hshort hfile hne
      rw [hclosed] at heq
      refine .inr ⟨_, _, q, heq, hq, ?_, hmoved.imp_right And.left⟩
      obtain hmoved | ⟨-, hcovers⟩ := hmoved
      · exact fun path => hmoved.locate_of_needsOnWay hd hfile (hq.get?_ne hd) (hq.ne hne)
      · exact fun path => hcovers.locate_of_needsOnWay hd
    · by_cases hren : ∃ d', d.rename src dest = .ok d'
      · -- the file is moved
        obtain ⟨d', hren⟩ := hren
        have heq : d.replaceFile src dest = (d', .ok none) := by
          rw [replaceFile, if_neg (by simp [hdir])]
          simp only [hren]
        obtain ⟨srcDir, srcName, destDir, destName, e, hr⟩ := rename_eq_ok hren
        have hsrc : srcDir ++ [srcName] = dir ++ [name] :=
          Option.some.inj (hr.named?_source.symm.trans (named?_of_locate hloc))
        obtain rfl : e = .file id :=
          Option.some.inj (hr.get?_source.symm.trans (hsrc ▸ hfile))
        have hq := hr.receivesAt (by simp) hdir
        have hmoved := hr.movesTo hd fun hfile' => hq.ne hne (hsole _ hfile').symm
        rw [hsrc] at hmoved
        exact .inr ⟨d', none, _, heq, hq,
          fun path => hmoved.locate_of_needsOnWay hd hfile (hq.get?_ne hd) (hq.ne hne), .inl hmoved⟩
      · exact .inl (replaceFile_refused hd (not_exists.1 hren) hcopies)

omit hd in
theorem fileAt_ne_of_none (hnone : d.get? (dir ++ [name]) = none) : d.fileAt src ≠ .ok id := by
  obtain ⟨hc, hdot, hup, hslash, init, left, hinit, hl⟩ := locate_eq_entry_iff.1 hloc
  rw [ne_eq, fileAt_eq_ok_iff hc ((Path.steps_eq_parts hslash.symm).trans hinit) hl]
  rintro ⟨q, hwalk, -⟩
  cases hshort : isTooLong name with
  | true =>
    rw [walk_tooLong hdot hup hshort] at hwalk
    cases hwalk
  | false =>
    rw [walk_name ⟨hdot, hup, hshort⟩, hnone] at hwalk
    cases hwalk

theorem replaceFile_of_none (hnone : d.get? (dir ++ [name]) = none) :
    ∃ d' e, d.replaceFile src dest = (d', .error e) ∧ d.GivesBack d' := by
  refine replaceFile_refused hd (fun d' hren => ?_) fun hcopies => ?_
  · obtain ⟨srcDir, srcName, destDir, destName, e, hr⟩ := rename_eq_ok hren
    have hsrc : srcDir ++ [srcName] = dir ++ [name] :=
      Option.some.inj (hr.named?_source.symm.trans (named?_of_locate hloc))
    have hget := hr.get?_source
    rw [hsrc, hnone] at hget
    cases hget
  · obtain ⟨-, hcross, d₁, temp, d₂, hnew, hcopy⟩ := hcopies
    obtain ⟨destDir, tmp, d₁, last, slash, id, hdest, hmade, hid⟩ :
        ∃ destDir tmp d₁ last slash id, d.locate dest = .ok (.entry destDir last slash) ∧
          d.Staged d₁ temp destDir tmp {} ∧ d₁.fileAt src = .ok id := by
      cases copiedOver hd hnew hcopy with
      | stays hdest hmade hid => exact ⟨_, _, _, _, _, _, hdest, hmade, hid⟩
      | moved hdest _ _ _ hmade hid => exact ⟨_, _, _, _, _, _, hdest, hmade, hid⟩
    -- the copy is in another directory than the source
    have hdirs := dir_ne_of_crossesDevices hcross hloc hdest
    have hne : dir ++ [name] ≠ destDir ++ [tmp] := fun heq => hdirs (List.append_inj' heq rfl).1
    have hnone₁ : d₁.get? (dir ++ [name]) = none := by rw [hmade.get?_eq, if_neg hne, hnone]
    exact fileAt_ne_of_none (locate_mono hmade.keepsWays hmade.base hloc) hnone₁ hid

end File

/-- **A copy takes the place of the destination although replacing the file fails**: the path of the
destination needs what was there. -/
theorem replaceFile_halfway (hd : d.WellFormed) (hcopies : d.CopiesOver src dest)
    (hthrough : d.LeadsThroughItself dest) :
    ∃ d' e q, d.replaceFile src dest = (d', .error e) ∧ d.ReceivesAt dest q ∧ d.LeadsOn q ∧
      d.Covers d' q := by
  obtain ⟨d₁, temp, d₂, hnew, hcopied, heq⟩ := replaceFile_of_copiesOver hd hcopies
  cases hcopied with
  | stays hdest hmade =>
    exact absurd hthrough (not_leadsThroughItself hd hdest (by simp [hmade.new]))
  | @moved _ _ destDir _ last _ hdest hshort hnot hlast _ _ _ hcopied hgraft =>
    have hcovers := hcopied.covers_graft hd hnot hlast
    rw [← hgraft] at hcovers
    obtain ⟨hnot, -⟩ | ⟨-, hon, hclosed⟩ := closeTemp_moved hd hnew hdest hcopied hnot hlast hgraft
    · exact absurd hthrough hnot
    · rw [hclosed] at heq
      exact ⟨_, _, _, heq, ⟨hcopies.1, destDir, last, hdest, hshort, rfl⟩, hon, hcovers⟩

end Replica.Disk
