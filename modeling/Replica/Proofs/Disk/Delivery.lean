import Mathlib.Data.List.Basic
import Replica.Proofs.Disk.Replacement

/-!
# What is read from a replaced file

A file is replaced by moving the entry of the source, which may be a symbolic link, or by a copy of
what the source leads to. What is read afterwards is the same for a file, but not for every link.

* `ReadsLink`, **`Linked.readAt_iff`**: what is read through a link in the place of an entry;
* **`Renames.readAt_file_iff`**, **`Renames.readAt_link_iff`**: what is read where a file or a link
  was moved;
* **`CopiedOver.readAt`**: what is read where a copy was;
* **`replaceFile_delivers`**: when it is what was read from the source;
* `replaceFile_moves_link`: a link that was moved away from what it leads to.
-/

namespace Replica.Disk

variable {d d' d₁ d₂ d₃ : Disk} {dir srcDir destDir p q r : Place} {id : Nat} {e : Entry}
  {path src dest name srcName destName target : String} {slash : Bool} {temp : TempFile}
  {bs : Bytes}

/-! ## What is read -/

theorem readAt_eq_ok_iff :
    d.readAt path = .ok bs ↔
      ∃ id, d.fileAt path = .ok id ∧ d.isReadable id = true ∧ d.content id = bs := by
  rw [readAt]
  cases d.fileAt path with
  | error e => simp
  | ok id => cases hr : d.isReadable id <;> simp [hr]

theorem not_leadsOn_of_fileAt (hd : d.WellFormed) (h : d.locate path = .ok (.entry dir name false))
    (hf : d.fileAt path = .ok id) : ¬d.LeadsOn (dir ++ [name]) := by
  intro hon
  have hon' := hon
  obtain ⟨target, _, _, _, _, hlink, -⟩ := hon'
  obtain ⟨left, q, hw, hq⟩ := walk_of_fileAt h hlink hf
  have hdir : (dir ++ [name]).dropLast = dir := List.dropLast_concat
  rw [← hdir] at hw
  exact not_leadsOn_of_walk hd hlink hw hq hon

/-- **Octets that are read through a link** to a target, in the place of the entry of a path where
nothing is. -/
def ReadsLink (d : Disk) (path target : String) (bs : Bytes) : Prop :=
  ∃ init name left dir q id, Path.parts path = init ++ [name] ∧
    d.Leads path init (left + 1) (.place dir) ∧
    d.walk false left (start dir target) (Path.steps target) = .ok q ∧
    d.get? q = some (.file id) ∧ d.isReadable id = true ∧ d.content id = bs

theorem Linked.readAt_iff (h : d.Linked d' (dir ++ [name]) target) (hd' : d'.WellFormed)
    (hloc : d.locate path = .ok (.entry dir name false)) (hshort : isTooLong name = false) :
    d'.readAt path = .ok bs ↔ d.ReadsLink path target bs := by
  obtain ⟨hc, hdot, hup, hslash, init, left, hinit, hl⟩ := locate_eq_entry_iff.1 hloc
  have hsteps := (Path.steps_eq_parts hslash.symm).trans hinit
  have hname : IsName name := ⟨hdot, hup, hshort⟩
  have htarget : ∀ links q id,
      d'.walk false links (start dir target) (Path.steps target) = .ok q ∧
          d'.get? q = some (.file id) ↔
        d.walk false links (start dir target) (Path.steps target) = .ok q ∧
          d.get? q = some (.file id) := by
    intro links q id
    simpa only [List.dropLast_concat] using h.walk_target_iff hd'
  rw [readAt_eq_ok_iff]
  constructor
  · rintro ⟨id, hf, hr, hbs⟩
    obtain ⟨q, hw, hq⟩ :=
      (fileAt_eq_ok_iff hc hsteps (hl.mono h.keepsEntries.keepsWays h.base)).1 hf
    obtain ⟨left, rfl, hfollow⟩ := (walk_to_link hname h.isLink).1 hw
    obtain ⟨hfollow, hq⟩ := (htarget left q id).1 ⟨hfollow, hq⟩
    refine ⟨init, name, left, dir, q, id, hinit, hl, hfollow, hq, ?_, ?_⟩
    · rwa [isReadable, ← h.body_eq]
    · rwa [content, ← h.body_eq]
  · rintro ⟨init', name', left, dir', q, id, hinit', hl', hw, hq, hr, hbs⟩
    obtain ⟨rfl, hname'⟩ := List.append_inj' (hinit.symm.trans hinit') rfl
    obtain rfl := hl.unique hl'
    obtain ⟨hw, hq⟩ := (htarget left q id).2 ⟨hw, hq⟩
    have hleads := hl'.mono h.keepsEntries.keepsWays h.base
    refine ⟨id, (fileAt_eq_ok_iff hc hsteps hleads).2 ⟨q, ?_, hq⟩, ?_, ?_⟩
    · exact (walk_to_link hname h.isLink).2 ⟨left, rfl, hw⟩
    · rwa [isReadable, h.body_eq]
    · rwa [content, h.body_eq]

theorem readAt_of_locate (h : d.locate path = .ok (.entry dir name false))
    (hshort : isTooLong name = false) (hf : d.get? (dir ++ [name]) = some (.file id))
    (hr : d.isReadable id = true) : d.readAt path = .ok (d.content id) :=
  readAt_eq_ok_iff.2 ⟨id, fileAt_of_locate h hshort hf, hr, rfl⟩

theorem WellFormed.lt_of_fileAt (hd : d.WellFormed) (h : d.fileAt path = .ok id) :
    id < d.files.length := by
  rw [fileAt] at h
  split at h
  · cases h
  · rename_i spot _
    split at h
    · rename_i id' hid
      obtain rfl := Except.ok.inj h
      cases spot with
      | place p => exact hd.numbered hid
      | removed p => cases hid
    · cases h

/-! ## Where an entry was moved -/

namespace Renames

variable (h : d.Renames d' src dest srcDir srcName destDir destName e) (hd : d.WellFormed)
  (he : e ≠ .directory)

include h he

theorem get?_destination_ne : d.get? (destDir ++ [destName]) ≠ some .directory := by
  cases h.moves with
  | stays same =>
    rcases same with same | same
    · rw [← same, h.get?_source]
      exact fun heq => he (Option.some.inj heq)
    · obtain ⟨id, -, hfile⟩ := sharesFile_iff.1 same
      simp [hfile]
  | entry _ _ _ hnot => exact hnot
  | directory _ _ hdir => exact absurd hdir he

theorem get?_source_ne : d.get? (srcDir ++ [srcName]) ≠ some .directory := by
  rw [h.get?_source]
  exact fun heq => he (Option.some.inj heq)

include hd

theorem keepsEntries :
    ((d.prune (destDir ++ [destName])).prune (srcDir ++ [srcName])).KeepsEntries d' := by
  intro r e' hr
  rw [hd.get?_prune_prune (h.get?_destination_ne he) (h.get?_source_ne he)] at hr
  rw [h.get?_eq hd he]
  split at hr
  · cases hr
  · rename_i hsrc
    split at hr
    · cases hr
    · rename_i hdest
      rw [if_neg hdest, if_neg fun hp => hsrc hp.1, hr]

theorem locate_destination (hon : ¬d.LeadsOn (srcDir ++ [srcName]))
    (hthrough : ¬d.LeadsThroughItself dest) :
    ((d.prune (destDir ++ [destName])).prune (srcDir ++ [srcName])).locate dest =
      .ok (.entry destDir destName false) := by
  obtain ⟨slash, hloc, hslash⟩ := h.destination
  rw [hslash he] at hloc
  have hdest := h.get?_destination_ne he
  have hloc' := locate_of_not_leadsThroughItself hthrough hd hloc hdest
  have hsrc : (d.prune (destDir ++ [destName])).get? (srcDir ++ [srcName]) ≠ some .directory :=
    fun hdir => h.get?_source_ne he (hd.keepsEntries_prune hdest _ _ hdir)
  exact (hd.prune hdest).locate_prune hsrc
    (fun hon' => hon (hon'.mono (hd.keepsEntries_prune hdest).keepsWays)) hloc'

end Renames

theorem Renames.source_locate (h : d.Renames d' src dest srcDir srcName destDir destName e)
    (hd : d.WellFormed) (hf : d.fileAt src = .ok id) :
    e ≠ .directory ∧ d.locate src = .ok (.entry srcDir srcName false) := by
  obtain ⟨slash, hloc, hslash⟩ := h.source
  have he : e ≠ .directory := by
    rintro rfl
    cases (fileAt_of_directory hd hloc h.source_short h.get?_source).symm.trans hf
  exact ⟨he, hslash he ▸ hloc⟩

/-- **A file that was moved** covers what was at the destination. -/
theorem Renames.covers (h : d.Renames d' src dest srcDir srcName destDir destName (.file id))
    (hd : d.WellFormed) (hsole : d.get? (destDir ++ [destName]) ≠ some (.file id)) :
    (d.prune (srcDir ++ [srcName])).Covers d' (destDir ++ [destName]) := by
  have hb := (h.wellFormed hd nofun).2
  have hget := h.get?_eq hd nofun
  have hsrc := h.get?_source_ne nofun
  have hne : destDir ++ [destName] ≠ srcDir ++ [srcName] := fun heq => hsole (heq ▸ h.get?_source)
  have hother := sharesFile_eq_false_of_file h.get?_source hsole
  refine ⟨⟨hb.workingDir, hb.lost, hb.mounts, hb.draw⟩, fun r hr => ?_, ⟨id, ?_⟩, ?_⟩
  · rw [hget, if_neg hr, hd.get?_prune hsrc]
    simp only [hother, and_true]
  · rw [hget, if_pos rfl]
  · rw [hd.get?_prune hsrc, if_neg hne]
    exact h.get?_destination_ne nofun

/-- **A file that was moved** is read at the destination, unless the path of the destination needed
what the file has replaced. -/
theorem Renames.readAt_file_iff
    (h : d.Renames d' src dest srcDir srcName destDir destName (.file id)) (hd : d.WellFormed)
    (hread : d.readAt src = .ok bs) : d'.readAt dest = .ok bs ↔ ¬d.LeadsThroughItself dest := by
  obtain ⟨id', hf, hr, hbs⟩ := readAt_eq_ok_iff.1 hread
  obtain ⟨he, hsrc⟩ := h.source_locate hd hf
  obtain ⟨hd', hb⟩ := h.wellFormed hd he
  obtain rfl : id' = id :=
    Except.ok.inj (hf.symm.trans (fileAt_of_locate hsrc h.source_short h.get?_source))
  have hon := not_leadsOn_of_fileAt hd hsrc hf
  have hget := h.get?_eq hd he
  constructor
  · intro hread' hthrough
    obtain ⟨slash, hloc, hslash⟩ := h.destination
    rw [hslash he] at hloc
    -- nothing leads through an entry of a file, be it the same file or another one
    have hsole : d.get? (destDir ++ [destName]) ≠ some (.file id') := fun hfile =>
      not_leadsThroughItself hd hloc (fun e' hq => ⟨id', Option.some.inj (hq.symm.trans hfile)⟩)
        hthrough
    have hsrcne := h.get?_source_ne he
    have hcovers := h.covers hd hsole
    have hloc' := hd.locate_prune hsrcne hon hloc
    have hthrough' := hthrough.prune hd hsrcne hloc (h.get?_destination_ne he) hloc'
    obtain ⟨id, hf', -⟩ := readAt_eq_ok_iff.1 hread'
    exact (hcovers.leadsThroughItself_iff (hd.prune hsrcne) hloc' rfl).1 hthrough'
      (hcovers.locate_of_fileAt hloc' hf')
  · intro hthrough
    have hloc := locate_mono (h.keepsEntries hd he).keepsWays
      ⟨hb.workingDir, hb.lost, hb.mounts, hb.draw⟩ (h.locate_destination hd he hon hthrough)
    have hfile : d'.get? (destDir ++ [destName]) = some (.file id') := by rw [hget, if_pos rfl]
    rw [readAt_of_locate hloc h.destination_short hfile, content, h.moves.body_eq]
    · exact congrArg _ hbs
    · rwa [isReadable, h.moves.body_eq]

/-- **A link that was moved** is read at the destination as its target is, from the directory of the
destination and without the two entries. -/
theorem Renames.readAt_link_iff
    (h : d.Renames d' src dest srcDir srcName destDir destName (.link target)) (hd : d.WellFormed)
    (hread : d.readAt src = .ok bs) (hthrough : ¬d.LeadsThroughItself dest) :
    d'.readAt dest = .ok bs ↔
      ((d.prune (destDir ++ [destName])).prune (srcDir ++ [srcName])).ReadsLink dest target bs := by
  obtain ⟨id, hf, -⟩ := readAt_eq_ok_iff.1 hread
  obtain ⟨he, hsrc⟩ := h.source_locate hd hf
  obtain ⟨hd', hb⟩ := h.wellFormed hd he
  have hloc := h.locate_destination hd he (not_leadsOn_of_fileAt hd hsrc hf) hthrough
  have hpruned := hd.get?_prune_prune (h.get?_destination_ne he) (h.get?_source_ne he)
  have hget := h.get?_eq hd he
  have hother := sharesFile_eq_false_of_link h.get?_source (destDir ++ [destName])
  have hlinked : ((d.prune (destDir ++ [destName])).prune (srcDir ++ [srcName])).Linked d'
      (destDir ++ [destName]) target :=
    { base := ⟨hb.workingDir, hb.lost, hb.mounts, hb.draw⟩
      new := by rw [hpruned, if_pos rfl, ite_self]
      isLink := by rw [hget, if_pos rfl]
      get?_eq := fun r hr => by
        rw [hget, hpruned, if_neg hr, if_neg hr]
        simp only [hother, and_true]
      body_eq := h.moves.body_eq }
  exact hlinked.readAt_iff hd' hloc h.destination_short

/-! ## Where a copy was made -/

theorem renameEntry_ne_crossesDevices {srcSlash destSlash : Bool} :
    d.renameEntry srcDir srcName srcSlash destDir destName destSlash ≠ .error .crossesDevices := by
  intro h
  simp only [renameEntry, renameDir, renameFile] at h
  repeat' split at h
  all_goals cases h

theorem dir_ne_of_crossesDevices {srcSlash destSlash : Bool}
    (h : d.rename src dest = .error .crossesDevices)
    (hsrc : d.locate src = .ok (.entry srcDir srcName srcSlash))
    (hdest : d.locate dest = .ok (.entry destDir destName destSlash)) : srcDir ≠ destDir := by
  rintro rfl
  have hs := notMem_of_check (locate_eq_entry_iff.1 hsrc).1
  have ht := notMem_of_check (locate_eq_entry_iff.1 hdest).1
  simp only [rename, hs, ht, Bool.false_eq_true, or_self, if_false, hsrc, hdest, Target.dir, ne_eq,
    not_true_eq_false] at h
  exact renameEntry_ne_crossesDevices h

/-- **The entry of a source is removed**, which is neither what is read nor on the way to it. -/
theorem readAt_unlinkOrKeep (hd : d.WellFormed) (hloc : d.locate dest = .ok (.entry dir name false))
    (hshort : isTooLong name = false) (hfile : d.get? (dir ++ [name]) = some (.file id))
    (hr : d.isReadable id = true)
    (hsrc : ∀ srcDir srcName, d.locate src = .ok (.entry srcDir srcName false) →
      srcDir ++ [srcName] ≠ dir ++ [name] ∧ ¬d.LeadsOn (srcDir ++ [srcName])) :
    (d.unlinkOrKeep src).1.readAt dest = .ok (d.content id) := by
  rw [unlinkOrKeep]
  split
  · rename_i hunlink
    obtain ⟨srcDir, srcName, e, hsrc', hget, he, rfl⟩ := unlink_eq_ok hunlink
    obtain ⟨hne, hon⟩ := hsrc _ _ hsrc'
    have hnot : d.get? (srcDir ++ [srcName]) ≠ some .directory := by simpa [hget] using he
    refine readAt_of_locate (hd.locate_prune hnot hon hloc) hshort ?_ hr
    rw [hd.get?_prune hnot, if_neg hne.symm, hfile]
  · exact readAt_of_locate hloc hshort hfile hr

theorem Staged.name_ne {last : String} {body : FileBody} (h : d.Staged d' temp dir name body)
    (hd : d.WellFormed) (hn : d.NeverDraws (Path.name dest))
    (hnew : d.createTemp ((Path.parent? dest).getD ".") {} = .ok (d₁, temp))
    (hloc : d.locate dest = .ok (.entry dir last slash)) : name ≠ last := by
  obtain ⟨-, k, dir', hmade, -⟩ := createTemp_beside hd hnew
  obtain ⟨-, rfl, -⟩ := Target.entry.inj (Except.ok.inj (hmade.located.symm.trans h.located))
  exact fun heq => hn k (heq.trans (name_of_locate hloc).symm)

/-- **A copy that took the place of the destination** is read there, and the source is not needed
for that. -/
theorem CopiedOver.readAt (h : d.CopiedOver src dest temp d₂) (hd : d.WellFormed)
    (hcross : d.rename src dest = .error .crossesDevices) (hread : d.readAt src = .ok bs)
    (hn : d.NeverDraws (Path.name dest))
    (hnew : d.createTemp ((Path.parent? dest).getD ".") {} = .ok (d₁, temp))
    (hclosed : d₂.closeTemp temp = (d₃, .ok ())) :
    (d₃.unlinkOrKeep src).1.readAt dest = .ok bs := by
  obtain ⟨id₀, hf, hr, hbs⟩ := readAt_eq_ok_iff.1 hread
  cases h with
  | stays hloc hmade => exact absurd rfl (hmade.name_ne hd hn hnew hloc)
  | @moved _ d' dir name last id hloc hshort hdir hne hmade hid hreadable hcopied hgraft =>
    -- what was copied is what was read
    have hsame := hid.symm.trans (fileAt_mono hmade.keepsEntries hmade.base hf)
    obtain rfl := Except.ok.inj hsame
    rw [content, hmade.body_of_lt (hd.lt_of_fileAt hf), ← content, hbs] at hcopied
    have hcovers := hcopied.covers_graft hd hdir hne
    obtain ⟨hd₂, -⟩ := hcopied.graft_sameAt hd hloc hdir hne
    have hbody := hcopied.body_eq
    rw [← body_graft (p := dir ++ [name]) (q := dir ++ [last])] at hbody
    rw [← hgraft] at hcovers hd₂ hbody
    rcases closeTemp_moved hd hnew hloc hcopied hdir hne hgraft with
      ⟨hthrough, hclosed'⟩ | ⟨-, -, hclosed'⟩
    · obtain ⟨rfl, -⟩ := Prod.mk.inj (hclosed.symm.trans hclosed')
      have hloc₃ : d₃.locate dest = .ok (.entry dir last false) := by
        by_contra hlost
        exact hthrough ((hcovers.leadsThroughItself_iff hd hloc rfl).2 hlost)
      have hfile : d₃.get? (dir ++ [last]) = some (.file temp.id) := by
        rw [hgraft, hcopied.get?_graft hd hdir hne, if_pos rfl]
      have hreadable' : d₃.isReadable temp.id = true := by rwa [isReadable, hbody]
      have hcontent : d₃.content temp.id = bs := by rw [content, hbody]
      rw [← hcontent]
      refine readAt_unlinkOrKeep hd₂ hloc₃ hshort hfile hreadable' fun srcDir srcName hsrc => ?_
      have hsrc' := locate_mono hcovers.keepsWays hcovers.base.symm hsrc
      refine ⟨fun heq => ?_, fun hon => ?_⟩
      · exact dir_ne_of_crossesDevices hcross hsrc' hloc (List.append_inj' heq rfl).1
      · exact not_leadsOn_of_fileAt hd hsrc' hf (hon.mono hcovers.keepsWays)
    · cases hclosed.symm.trans hclosed'

/-! ## Replacing a file -/

/-- **What is read from a replaced file.** A copy from another file system is what was read from the
source. A file that was moved is, too, unless the path of the destination needs what the file has
replaced, and then it goes through too many links. A symbolic link that was moved is, if its target
leads to the same octets from the directory of the destination, where neither the source nor what
was at the destination is any more. -/
theorem replaceFile_delivers {left : Option IoError} (hd : d.WellFormed)
    (hread : d.readAt src = .ok bs) (hok : (d.replaceFile src dest).2 = .ok left) :
    (d.rename src dest = .error .crossesDevices → d.NeverDraws (Path.name dest) →
      (d.replaceFile src dest).1.readAt dest = .ok bs) ∧
    (d.rename src dest ≠ .error .crossesDevices →
      ∃ p q, d.named? src = some p ∧ d.named? dest = some q ∧
        (d.LeadsThroughItself dest → d.resolve dest = .error .tooManyLinks) ∧
        ((∃ id, d.get? p = some (.file id)) ∧
            ((d.replaceFile src dest).1.readAt dest = .ok bs ↔ ¬d.LeadsThroughItself dest) ∨
          ∃ target, d.get? p = some (.link target) ∧
            (¬d.LeadsThroughItself dest →
              ((d.replaceFile src dest).1.readAt dest = .ok bs ↔
                ((d.prune q).prune p).ReadsLink dest target bs)))) := by
  obtain ⟨id, hf, -⟩ := readAt_eq_ok_iff.1 hread
  rcases replaceFile_cases hd src dest with ⟨-, h⟩ | ⟨d', hdir, hren, h⟩ | ⟨-, d', e, h, -⟩ |
    ⟨d₁, temp, d₂, hcopies, hnew, hcopied, h⟩
  · rw [h] at hok
    cases hok
  · -- the entry of the source is moved
    rw [h, hren]
    refine ⟨nofun, fun _ => ?_⟩
    obtain ⟨srcDir, srcName, destDir, destName, e, hmoved⟩ := rename_eq_ok hren
    obtain ⟨he, hsrc⟩ := hmoved.source_locate hd hf
    refine ⟨_, _, hmoved.named?_source, hmoved.named?_destination, fun hthrough => ?_, ?_⟩
    · obtain ⟨slash, hloc, hslash⟩ := hmoved.destination
      rw [hslash he] at hloc
      exact resolve_eq_tooManyLinks hd hdir hloc hmoved.destination_short
        (hthrough.leadsOn hd hloc (hmoved.get?_destination_ne he))
    · cases e with
      | directory => exact absurd rfl he
      | file id => exact .inl ⟨⟨id, hmoved.get?_source⟩, hmoved.readAt_file_iff hd hread⟩
      | link target =>
        exact .inr ⟨target, hmoved.get?_source, hmoved.readAt_link_iff hd hread⟩
  · rw [h] at hok
    cases hok
  · -- a copy is made
    refine ⟨fun hcross hn => ?_, fun hnot => absurd hcopies.2.1 hnot⟩
    cases hclosed : d₂.closeTemp temp with
    | mk d₃ r =>
      cases r with
      | error e =>
        rw [h, hclosed] at hok
        cases hok
      | ok u =>
        rw [h, hclosed]
        exact hcopied.readAt hd hcross hread hn hnew hclosed

/-! ## A link moved to another directory -/

/-- A file, a link to it beside it, and a directory. -/
def besideLink : Disk :=
  ((((empty.newFile defaultMode).1.setContent 0 [1]).put ["data"] (.file 0)).put ["l"]
    (.link "data")).put ["sub"] .directory

theorem wellFormed_besideLink : besideLink.WellFormed := by
  have hfile : ((empty.newFile defaultMode).1.setContent 0 [1]).WellFormed :=
    (wellFormed_empty.newFile defaultMode).setContent 0 [1]
  have hdata : (((empty.newFile defaultMode).1.setContent 0 [1]).put ["data"]
      (.file 0)).WellFormed :=
    hfile.put_root (by decide) (by decide) fun id h => Entry.file.inj h ▸ by decide
  have hlink : ((((empty.newFile defaultMode).1.setContent 0 [1]).put ["data"] (.file 0)).put
      ["l"] (.link "data")).WellFormed := hdata.put_root (by decide) (by decide) nofun
  exact hlink.put_root (e := .directory) (by decide) (by decide) nofun

/-- The file itself is read wherever it is moved. -/
theorem replaceFile_delivers_file :
    besideLink.WellFormed ∧ besideLink.readAt "/data" = .ok [1] ∧
      (besideLink.replaceFile "/data" "/sub/d").2 = .ok none ∧
      (besideLink.replaceFile "/data" "/sub/d").1.readAt "/sub/d" = .ok [1] := by
  have hread : besideLink.readAt "/data" = .ok [1] := by decide +kernel
  have hok : (besideLink.replaceFile "/data" "/sub/d").2 = .ok none := by decide +kernel
  have hsrc : besideLink.named? "/data" = some ["data"] := by decide +kernel
  have hloc : besideLink.locate "/sub/d" = .ok (.entry ["sub"] "d" false) := by decide +kernel
  have hmoves : besideLink.rename "/data" "/sub/d" ≠ .error .crossesDevices := by
    have hdone : (besideLink.rename "/data" "/sub/d").isOk = true := by decide +kernel
    exact fun hcross => by rw [hcross] at hdone; cases hdone
  refine ⟨wellFormed_besideLink, hread, hok, ?_⟩
  obtain ⟨p, q, hp, -, -, ⟨-, hreads⟩ | ⟨target, hlink, -⟩⟩ :=
    (replaceFile_delivers wellFormed_besideLink hread hok).2 hmoves
  · exact hreads.2 (not_leadsThroughItself wellFormed_besideLink hloc fun e he => by
      rw [show besideLink.get? (["sub"] ++ ["d"]) = none by decide] at he
      cases he)
  · rw [← Option.some.inj (hsrc.symm.trans hp)] at hlink
    cases hlink

/-- **A link that leads nowhere from where it was moved**, although the source could be read. -/
theorem replaceFile_moves_link :
    besideLink.WellFormed ∧ besideLink.readAt "/l" = .ok [1] ∧
      (besideLink.replaceFile "/l" "/sub/d").2 = .ok none ∧
      (besideLink.replaceFile "/l" "/sub/d").1.readAt "/sub/d" = .error .noEntry :=
  ⟨wellFormed_besideLink, by decide +kernel, by decide +kernel, by decide +kernel⟩

end Replica.Disk
