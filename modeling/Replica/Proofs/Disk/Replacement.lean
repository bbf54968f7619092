import Mathlib.Data.List.Basic
import Replica.Proofs.Disk.Beside
import Replica.Proofs.Disk.Links

/-!
# What replacing a file changes

* `WellFormed.ordinary_of_locate`, **`Covers.locate_beside_iff`**: what stands beside an entry is
  found if and only if the entry is;
* `CopiedOver`, **`copiedOver`**: a copy made of a source and moved over a destination;
* `closeTemp_moved`: the path of the copy is closed after that;
* `CopiesOver`, `replaceFile_refused`, **`replaceFile_cases`**: how a file is replaced, or is not;
* **`replaceFile_atomic`**: what is as it was, whether it was replaced or not;
* `replaceFile_fails_halfway`: a copy that stays although replacing the file has failed.
-/

namespace Replica.Disk

variable {d d' d₁ d₂ : Disk} {dir p q : Place} {path src dest name last : String} {slash : Bool}
  {temp staged : TempFile} {body : FileBody} {bs : Bytes} {mode : Nat}

/-! ## What stands beside an entry -/

theorem WellFormed.ordinary_of_locate (hd : d.WellFormed)
    (h : d.locate path = .ok (.entry dir name slash)) : d.Ordinary path (.place dir) name := by
  obtain ⟨hc, hdot, hup, -, init, left, hparts, -⟩ := locate_eq_entry_iff.1 h
  have hholder : d.resolve (Path.holder path) = .ok (.place dir) := by
    cases hpar : Path.parent? path with
    | none => exact absurd (Path.dots_of_parent? hpar name (by simp [hparts])) hdot
    | some par =>
      obtain ⟨left, hl⟩ := leads_parent? hpar h
      by_cases hne : par = ""
      · -- the empty path begins where the dot does
        have hdots : Path.parts "." = [] ++ ["."] := by decide +kernel
        have hempty : Path.parts "" = [] := by decide +kernel
        rw [hne, hempty] at hl
        have hl' : d.Leads "." (Path.parts ".") left (.place dir) := by
          rw [hdots, leads_append_dots_iff fun s hs => List.mem_singleton.1 hs]
          exact (leads_congr (by decide)).1 hl
        simp only [Path.holder, hpar, if_pos hne]
        exact hl'.resolve_eq (by decide +kernel)
      · simp only [Path.holder, hpar, if_neg hne]
        exact hl.resolve_eq (check_of_parent? hpar hne hc)
  exact ⟨hholder, (hd.of_locate h).1, by simp [hparts], hdot, hup⟩

theorem locate_of_leads_parent? {par : String} {left : Nat} (hpar : Path.parent? path = some par)
    (h : d.locate path = .ok (.entry dir name slash))
    (hl : d'.Leads par (Path.parts par) left (.place dir)) :
    d'.locate path = .ok (.entry dir name slash) := by
  obtain ⟨hc, hdot, hup, hs, init, -, hinit, -⟩ := locate_eq_entry_iff.1 h
  obtain ⟨dots, _, rest, hparts, hdots, hrest, -⟩ := Path.parts_of_parent? hpar
  refine locate_eq_entry_iff.2 ⟨hc, hdot, hup, hs, init, left, hinit, ?_⟩
  rw [Path.init_eq (hparts.symm.trans hinit) hrest hdot, leads_append_dots_iff hdots]
  exact (leads_congr (Path.isAbsolute_of_parent? hpar)).1 hl

/-- **What stands beside an entry** is found if and only if the entry is. -/
theorem Covers.locate_beside_iff {there tmp : String} (hc : d.Covers d' p) (hd : d.WellFormed)
    (hd' : d'.WellFormed) (hthere : d.absolutePath ((Path.parent? path).getD ".") = .ok there)
    (htmp : IsEntryName tmp) (h : d.locate path = .ok (.entry dir name slash))
    (hbeside : d.locate (Path.join there tmp) = .ok (.entry dir tmp false)) :
    d'.locate (Path.join there tmp) = .ok (.entry dir tmp false) ↔
      d'.locate path = .ok (.entry dir name slash) := by
  have hthere' : d'.absolutePath ((Path.parent? path).getD ".") = .ok there := by
    rw [← hthere, absolutePath, absolutePath, hc.base.lost, hc.base.workingDir]
  have hfar : d'.isFar path = d.isFar path := by rw [isFar, isFar, hc.base.workingDir]
  constructor
  · intro hloc
    have habs : Path.isAbsolute (Path.join there tmp) = true :=
      Path.isAbsolute_join (absolutePath_eq_ok hthere).2.1
    have hparts := Path.parts_join_name there htmp.no_slash htmp.ne_empty
    obtain ⟨-, left, hparent⟩ := hd'.leads_of_locate hthere' habs hparts hloc
    cases hpar : Path.parent? path with
    | none =>
      obtain ⟨-, hdot, -, -, init, _, hparts, -⟩ := locate_eq_entry_iff.1 h
      exact absurd (Path.dots_of_parent? hpar name (by simp [hparts])) hdot
    | some par =>
      rw [hpar, Option.getD_some] at hparent
      exact locate_of_leads_parent? hpar h hparent
  · intro hloc
    obtain ⟨_, hdir, hbefore⟩ := (hd.ordinary_of_locate h).locate_beside hd hthere
    obtain ⟨_, hdir', hafter⟩ := (hd'.ordinary_of_locate hloc).locate_beside hd' hthere'
    obtain rfl := Spot.place.inj hdir
    obtain rfl := Spot.place.inj hdir'
    rw [hafter tmp htmp, hfar, ← hbefore tmp htmp, hbeside]

/-! ## A copy in the place of the entry -/

namespace Staged

theorem setMode (h : d.Staged d' temp dir name body) (mode : Nat) :
    d.Staged (d'.setMode temp.id mode) temp dir name { body with mode } where
  located := h.located
  short := h.short
  new := h.new
  id_eq := h.id_eq
  base := h.base.trans ⟨rfl, rfl, rfl, rfl⟩
  get?_eq := h.get?_eq
  files := by
    rw [Disk.setMode, h.body_eq, h.files, h.id_eq]
    simp

theorem resolveOrMissing (h : d.Staged d' temp dir name body) :
    d'.resolveOrMissing temp.path = .ok (.place (dir ++ [name])) := by
  obtain ⟨hc, hdot, hup, hslash, init, left, hinit, hl⟩ := locate_eq_entry_iff.1 h.locate_eq
  have hsteps := (Path.steps_eq_parts hslash.symm).trans hinit
  have hwalk : d'.walkPath true temp.path (Path.steps temp.path) =
      .ok (.place (dir ++ [name])) := by
    rw [hsteps, hl.walkPath_append, walk_name ⟨hdot, hup, h.short⟩, h.get?_self]
    rfl
  simp [Disk.resolveOrMissing, hc, hwalk]

/-- **What is copied to the file** is the content of the source, with its mode. -/
theorem copyFile_eq_ok (h : d.Staged d' temp dir name body)
    (hcopy : d'.copyFile src temp.path = .ok d₂) :
    ∃ id, d'.fileAt src = .ok id ∧ d'.isReadable id = true ∧
      d.Staged d₂ temp dir name ⟨d'.content id, (d'.body id).mode⟩ := by
  rw [copyFile] at hcopy
  split at hcopy
  · cases hcopy
  · cases hcopy
  · rename_i id hid
    split at hcopy
    · rename_i hreadable
      simp only [writeTo, h.resolveOrMissing, h.get?_self] at hcopy
      split at hcopy
      · obtain rfl := Except.ok.inj hcopy
        exact ⟨id, hid, hreadable, (h.setContent _).setMode _⟩
      · cases hcopy
    · cases hcopy

end Staged

theorem createTemp_path {parent : String} (hd : d.WellFormed)
    (h : d.createTemp parent {} = .ok (d', temp))
    (hloc : d.locate temp.path = .ok (.entry dir name slash)) :
    ∃ there, d.absolutePath parent = .ok there ∧ IsEntryName name ∧
      temp.path = Path.join there name := by
  obtain ⟨there, k, -, -, hthere, htemp, -⟩ := createTemp_eq_ok h
  have hname := hd.isEntryName_tempName k
  have hpath : temp.path = Path.join there (tempPrefix ++ d.draw k) := by
    rw [htemp]
    rfl
  have hlast : tempPrefix ++ d.draw k = name := by
    rw [← name_of_locate hloc, hpath, Path.name,
      Path.parts_join_name there hname.no_slash hname.ne_empty]
    simp
  exact ⟨there, hthere, hlast ▸ hname, hlast ▸ hpath⟩

/-- **A copy made of a source**, beside a destination, and moved over it. The copy has a name that
was free; if that is the name of the destination, it stays where it is. -/
inductive CopiedOver (d : Disk) (src dest : String) (temp : TempFile) (d₂ : Disk) : Prop
  | stays {d₁ : Disk} {dir : Place} {name : String} {slash : Bool} {id : Nat}
      (destination : d.locate dest = .ok (.entry dir name slash))
      (made : d.Staged d₁ temp dir name {}) (source : d₁.fileAt src = .ok id)
      (readable : d₁.isReadable id = true)
      (copied : d.Staged d₂ temp dir name ⟨d₁.content id, (d₁.body id).mode⟩)
  | moved {d₁ d' : Disk} {dir : Place} {name last : String} {id : Nat}
      (destination : d.locate dest = .ok (.entry dir last false)) (short : isTooLong last = false)
      (replaced : d.get? (dir ++ [last]) ≠ some .directory) (ne : last ≠ name)
      (made : d.Staged d₁ temp dir name {}) (source : d₁.fileAt src = .ok id)
      (readable : d₁.isReadable id = true)
      (copied : d.Staged d' temp dir name ⟨d₁.content id, (d₁.body id).mode⟩)
      (graft : d₂ = d'.graft (dir ++ [name]) (dir ++ [last]))

theorem copiedOver (hd : d.WellFormed)
    (hnew : d.createTemp ((Path.parent? dest).getD ".") {} = .ok (d₁, temp))
    (hcopy : d₁.copyOver src dest temp = .ok d₂) : d.CopiedOver src dest temp d₂ := by
  obtain ⟨-, k, dir, hmade, hdir⟩ := createTemp_beside hd hnew
  rw [copyOver] at hcopy
  split at hcopy
  · cases hcopy
  · rename_i d' hfile
    obtain ⟨id, hid, hreadable, hcopied⟩ := hmade.copyFile_eq_ok hfile
    obtain ⟨srcDir, srcName, destDir, last, e, hren⟩ := rename_eq_ok hcopy
    obtain ⟨slash, hloc', hslash⟩ := hren.destination
    have hloc := hcopied.locate_iff.1 hloc'
    obtain rfl := hdir _ _ _ hloc
    have hsrc : srcDir ++ [srcName] = destDir ++ [tempPrefix ++ d.draw k] :=
      Option.some.inj (hren.named?_source.symm.trans (named?_of_locate hcopied.locate_eq))
    have he : e = .file temp.id :=
      Option.some.inj (hren.get?_source.symm.trans (hsrc ▸ hcopied.get?_self))
    have hmoves := hren.moves
    rw [hsrc] at hmoves
    by_cases hne : last = tempPrefix ++ d.draw k
    · subst hne
      cases hmoves with
      | stays => exact .stays hloc hmade hid hreadable hcopied
      | entry hs => exact absurd List.prefix_rfl hs
      | directory hs => exact absurd List.prefix_rfl hs
    · have hplace : destDir ++ [last] ≠ destDir ++ [tempPrefix ++ d.draw k] := by simpa using hne
      cases hmoves with
      | stays same =>
        rcases same with same | same
        · exact absurd same.symm hplace
        · cases (hcopied.sharesFile_eq_false hd hplace).symm.trans same
      | entry _ _ _ hnot =>
        rw [hslash (by simp [he])] at hloc
        rw [hcopied.get?_eq, if_neg hplace] at hnot
        exact .moved hloc hren.destination_short hnot hne hmade hid hreadable hcopied rfl
      | directory _ _ hdirectory => simp [he] at hdirectory

/-- **The file in the place of the destination** covers what was there. -/
theorem Staged.covers_graft (h : d.Staged d' temp dir name body) (hd : d.WellFormed)
    (hn : d.get? (dir ++ [last]) ≠ some .directory) (hne : last ≠ name) :
    d.Covers (d'.graft (dir ++ [name]) (dir ++ [last])) (dir ++ [last]) where
  base := ⟨h.base.workingDir, h.base.lost, h.base.mounts, h.base.draw⟩
  get?_eq q hq := by rw [h.get?_graft hd hn hne, if_neg hq]
  isFile := ⟨temp.id, by rw [h.get?_graft hd hn hne, if_pos rfl]⟩
  notDirectory := hn

/-- **The path of the copy is closed** after the copy was moved: there is nothing to remove, unless
the path of the destination, and so that of the copy, needs what the copy has replaced. -/
theorem closeTemp_moved (hd : d.WellFormed)
    (hnew : d.createTemp ((Path.parent? dest).getD ".") {} = .ok (d₁, temp))
    (hloc : d.locate dest = .ok (.entry dir last slash)) (h : d.Staged d' temp dir name body)
    (hn : d.get? (dir ++ [last]) ≠ some .directory) (hne : last ≠ name)
    (hd₂ : d₂ = d'.graft (dir ++ [name]) (dir ++ [last])) :
    ¬d.LeadsThroughItself dest ∧ d₂.closeTemp temp = (d₂, .ok ()) ∨
      d.LeadsThroughItself dest ∧ d.LeadsOn (dir ++ [last]) ∧
        d₂.closeTemp temp =
          (d₂, .error (.remove temp.path (.atPath .notDirectory temp.path))) := by
  subst hd₂
  have hcovers := h.covers_graft hd hn hne
  have hd₂ := (h.wellFormed hd).graft h.get?_self nofun
    (h.keepsWays _ _ nofun (hd.of_locate hloc).1) (by rwa [h.get?_eq, if_neg (by simpa using hne)])
    (by simpa using hne.symm) (hd.of_locate hloc).2
  obtain ⟨there, hthere, hname, hpath⟩ := createTemp_path hd hnew h.located
  have hbeside := hcovers.locate_beside_iff hd hd₂ hthere hname hloc (hpath ▸ h.located)
  rw [← hpath] at hbeside
  rw [hcovers.leadsThroughItself_iff hd hloc rfl, ne_eq, ← hbeside]
  rcases hcovers.locate_cases h.located with hfound | ⟨hon, hlost⟩
  · left
    have hgone : (d'.graft (dir ++ [name]) (dir ++ [last])).get? (dir ++ [name]) = none := by
      rw [h.get?_graft hd hn hne, if_neg (by simpa using hne.symm), h.new]
    have hunlink : (d'.graft (dir ++ [name]) (dir ++ [last])).unlink temp.path =
        .error .noEntry := by
      simp [unlink, hfound, h.short, hgone]
    exact ⟨fun hnot => hnot hfound, by rw [closeTemp, hunlink]⟩
  · right
    have hunlink : (d'.graft (dir ++ [name]) (dir ++ [last])).unlink temp.path =
        .error .notDirectory := by
      simp [unlink, hlost]
    exact ⟨by simp [hlost], hon, by rw [closeTemp, hunlink]⟩

/-! ## Replacing a file -/

/-- **A file is replaced by a copy**: its path leads to no directory, the source is on another file
system, and a copy could be made and moved. -/
def CopiesOver (d : Disk) (src dest : String) : Prop :=
  d.isDir dest = false ∧ d.rename src dest = .error .crossesDevices ∧
    ∃ d₁ temp d₂, d.createTemp ((Path.parent? dest).getD ".") {} = .ok (d₁, temp) ∧
      d₁.copyOver src dest temp = .ok d₂

theorem copyIntoPlace_of_error {e : IoError}
    (hnew : d.createTemp ((Path.parent? dest).getD ".") {} = .ok (d₁, temp))
    (hcopy : d₁.copyOver src dest temp = .error e) :
    d.copyIntoPlace src dest = (d₁.dropTemp temp, .error (.replace src dest e)) := by
  -- its equation takes long to be made
  delta copyIntoPlace
  simp only [hnew, hcopy]

theorem copyIntoPlace_of_ok
    (hnew : d.createTemp ((Path.parent? dest).getD ".") {} = .ok (d₁, temp))
    (hcopy : d₁.copyOver src dest temp = .ok d₂) :
    d.copyIntoPlace src dest =
      match d₂.closeTemp temp with
      | (d₃, .error e) => (d₃, .error e)
      | (d₃, .ok ()) => ((d₃.unlinkOrKeep src).1, .ok (d₃.unlinkOrKeep src).2) := by
  delta copyIntoPlace
  rcases hclosed : d₂.closeTemp temp with ⟨d₃, e | u⟩ <;> simp only [hnew, hcopy, hclosed]

/-- **Without a copy in its place**, everything is given back. -/
theorem copyIntoPlace_refused (hd : d.WellFormed) (hdir : d.isDir dest = false)
    (hren : d.rename src dest = .error .crossesDevices) (hnot : ¬d.CopiesOver src dest) :
    ∃ d' e, d.copyIntoPlace src dest = (d', .error e) ∧ d.GivesBack d' := by
  cases hnew : d.createTemp ((Path.parent? dest).getD ".") {} with
  | error e => exact ⟨d, e, by delta copyIntoPlace; simp only [hnew], .refl d⟩
  | ok r =>
    obtain ⟨d₁, temp⟩ := r
    cases hcopy : d₁.copyOver src dest temp with
    | error e =>
      obtain ⟨-, dir, name, hmade⟩ := staged_of_createTemp hnew
      exact ⟨_, _, copyIntoPlace_of_error hnew hcopy, hmade.closeTemp_givesBack hd⟩
    | ok d₂ => exact absurd ⟨hdir, hren, d₁, temp, d₂, hnew, hcopy⟩ hnot

/-- **A file that is neither moved nor copied**: everything is given back. -/
theorem replaceFile_refused (hd : d.WellFormed) (hren : ∀ d', d.rename src dest ≠ .ok d')
    (hnot : ¬d.CopiesOver src dest) :
    ∃ d' e, d.replaceFile src dest = (d', .error e) ∧ d.GivesBack d' := by
  rw [replaceFile]
  cases hdir : d.isDir dest with
  | true => exact ⟨d, _, rfl, .refl d⟩
  | false =>
    rw [if_neg Bool.false_ne_true]
    split
    · rename_i d' hok
      exact absurd hok (hren d')
    · rename_i hcross
      exact copyIntoPlace_refused hd hdir hcross hnot
    · exact ⟨d, _, rfl, .refl d⟩

theorem replaceFile_of_copiesOver (hd : d.WellFormed) (h : d.CopiesOver src dest) :
    ∃ d₁ temp d₂, d.createTemp ((Path.parent? dest).getD ".") {} = .ok (d₁, temp) ∧
      d.CopiedOver src dest temp d₂ ∧
      d.replaceFile src dest =
        match d₂.closeTemp temp with
        | (d₃, .error e) => (d₃, .error e)
        | (d₃, .ok ()) => ((d₃.unlinkOrKeep src).1, .ok (d₃.unlinkOrKeep src).2) := by
  obtain ⟨hdir, hcross, d₁, temp, d₂, hnew, hcopy⟩ := h
  refine ⟨d₁, temp, d₂, hnew, copiedOver hd hnew hcopy, ?_⟩
  rw [replaceFile, if_neg (by simp [hdir])]
  simp only [hcross, copyIntoPlace_of_ok hnew hcopy]

/-- **What replacing a file does.** -/
theorem replaceFile_cases (hd : d.WellFormed) (src dest : String) :
    d.isDir dest = true ∧ d.replaceFile src dest = (d, .error (.isDirectory dest)) ∨
      (∃ d', d.isDir dest = false ∧ d.rename src dest = .ok d' ∧
        d.replaceFile src dest = (d', .ok none)) ∨
      (¬d.CopiesOver src dest ∧ ∃ d' e, d.replaceFile src dest = (d', .error e) ∧
        ∀ q, d.SameAt d' q) ∨
      ∃ d₁ temp d₂, d.CopiesOver src dest ∧
        d.createTemp ((Path.parent? dest).getD ".") {} = .ok (d₁, temp) ∧
        d.CopiedOver src dest temp d₂ ∧
        d.replaceFile src dest =
          match d₂.closeTemp temp with
          | (d₃, .error e) => (d₃, .error e)
          | (d₃, .ok ()) => ((d₃.unlinkOrKeep src).1, .ok (d₃.unlinkOrKeep src).2) := by
  cases hdir : d.isDir dest with
  | true => exact .inl ⟨rfl, by rw [replaceFile, if_pos hdir]⟩
  | false =>
    right
    cases hren : d.rename src dest with
    | ok d' =>
      refine .inl ⟨d', rfl, rfl, ?_⟩
      rw [replaceFile, if_neg (by simp [hdir])]
      simp only [hren]
    | error e =>
      right
      by_cases hcopies : d.CopiesOver src dest
      · obtain ⟨d₁, temp, d₂, hnew, hcopied, heq⟩ := replaceFile_of_copiesOver hd hcopies
        exact .inr ⟨d₁, temp, d₂, hcopies, hnew, hcopied, heq⟩
      · have hnot : ∀ d', d.rename src dest ≠ .ok d' := by simp [hren]
        obtain ⟨d', e', hrefused, hback⟩ := replaceFile_refused hd hnot hcopies
        exact .inl ⟨hcopies, d', e', hrefused, hback.sameAt⟩

theorem sameAt_unlinkOrKeep (hd : d.WellFormed) (hq : ∀ p, d.named? path = some p → q ≠ p) :
    d.SameAt (d.unlinkOrKeep path).1 q := by
  rw [unlinkOrKeep]
  split
  · rename_i hunlink
    obtain ⟨dir, name, e, hloc, hget, hne, rfl⟩ := unlink_eq_ok hunlink
    exact hd.sameAt_prune (by simpa [hget] using hne) (hq _ (named?_of_locate hloc))
  · exact .refl d q

theorem KeepsWays.named? (hk : d'.KeepsWays d) (hb : d.SameBase d')
    (h : d'.named? path = some p) : d.named? path = some p := by
  obtain ⟨dir, name, slash, hloc, rfl⟩ := named?_eq_some_iff.1 h
  exact named?_of_locate (locate_mono hk hb.symm hloc)

/-- **What becomes of a copy** that took the place of the destination. -/
theorem replaceFile_copied (hd : d.WellFormed)
    (hnew : d.createTemp ((Path.parent? dest).getD ".") {} = .ok (d₁, temp))
    (hcopied : d.CopiedOver src dest temp d₂) :
    d.LeadsThroughItself dest ∧
        (d.isDir dest = false → d.resolve dest = .error .tooManyLinks) ∧
        (∃ cause, d₂.closeTemp temp = (d₂, .error (.remove temp.path cause))) ∧
        ¬(∀ q, d.SameAt d₂ q) ∨
      ¬d.LeadsThroughItself dest ∧ ∃ d₃, d₂.closeTemp temp = (d₃, .ok ()) ∧
        d₃.WellFormed ∧ d.SameBase d₃ ∧ d₃.KeepsWays d ∧
        ∀ q, d.named? dest ≠ some q → d.SameAt d₃ q := by
  cases hcopied with
  | @stays _ dir name slash id hloc _ _ _ hs =>
    right
    obtain ⟨hd₃, hb, hsame⟩ := hs.closeTemp_sameAt hd
    refine ⟨not_leadsThroughItself hd hloc (by simp [hs.new]), _, ?_, hd₃, hb, ?_,
      fun q _ => hsame q⟩
    · rw [hs.closeTemp]
    · exact fun q e _ hq => (hsame q).entry ▸ hq
  | @moved _ d' dir name last id hloc hshort hn hne _ _ _ hs hgraft =>
    have hcovers := hs.covers_graft hd hn hne
    obtain ⟨hd₂, hb, -, hsame⟩ := hs.graft_sameAt hd hloc hn hne
    rw [← hgraft] at hcovers hd₂ hb hsame
    rcases closeTemp_moved hd hnew hloc hs hn hne hgraft with
      ⟨hnot, hclosed⟩ | ⟨hthrough, hon, hclosed⟩
    · refine .inr ⟨hnot, d₂, hclosed, hd₂, hb, hcovers.keepsWays, fun q hq => hsame q ?_⟩
      rintro rfl
      exact hq (named?_of_locate hloc)
    · refine .inl ⟨hthrough, fun hdir => resolve_eq_tooManyLinks hd hdir hloc hshort hon,
        ⟨_, hclosed⟩, fun hall => ?_⟩
      -- the copy is a file that was not there
      have hfile := (hall (dir ++ [last])).entry
      rw [hgraft, hs.get?_graft hd hn hne, if_pos rfl] at hfile
      have := hd.numbered hfile.symm
      rw [hs.id_eq] at this
      exact absurd this (Nat.lt_irrefl _)

/-- **Replacing a file touches two entries.** A destination that leads to a directory is refused,
and nothing changes. If a file is replaced, nothing changes but what is at or below the entries of
the source and of the destination. If it is not, nothing changes at all, unless a copy took the
place of the destination whose path needs what was replaced on its way: then the copy stays there
and the source too, and the error is that the copy cannot be removed beside the destination. Such a
path goes through too many links. -/
theorem replaceFile_atomic (hd : d.WellFormed) (src dest : String) :
    (d.isDir dest = true → d.replaceFile src dest = (d, .error (.isDirectory dest))) ∧
    (∀ left, (d.replaceFile src dest).2 = .ok left →
      ∀ q, (∀ p, d.named? src = some p → ¬p <+: q) → (∀ p, d.named? dest = some p → ¬p <+: q) →
        d.SameAt (d.replaceFile src dest).1 q) ∧
    (∀ e, (d.replaceFile src dest).2 = .error e →
      ((∀ q, d.SameAt (d.replaceFile src dest).1 q) ↔
        ¬(d.CopiesOver src dest ∧ d.LeadsThroughItself dest))) ∧
    (d.CopiesOver src dest → d.LeadsThroughItself dest →
      d.resolve dest = .error .tooManyLinks ∧
        ∃ path cause, (d.replaceFile src dest).2 = .error (.remove path cause)) := by
  refine ⟨fun hdir => by rw [replaceFile, if_pos hdir], ?_⟩
  rcases replaceFile_cases hd src dest with ⟨hdir, h⟩ | ⟨d', hdir, hren, h⟩ |
    ⟨hnot, d', e, h, hsame⟩ | ⟨d₁, temp, d₂, hcopies, hnew, hcopied, h⟩
  · -- the destination is refused
    rw [h]
    have hnot : ¬d.CopiesOver src dest := fun hc => by cases hdir.symm.trans hc.1
    refine ⟨fun left hok => ?_, fun e _ => ?_, fun hc => absurd hc hnot⟩
    · cases hok
    · exact ⟨fun _ hc => hnot hc.1, fun _ q => .refl d q⟩
  · -- the source is moved
    rw [h]
    have hnot : ¬d.CopiesOver src dest := fun hc => by cases hren.symm.trans hc.2.1
    obtain ⟨srcDir, srcName, destDir, destName, e, hmoved⟩ := rename_eq_ok hren
    refine ⟨fun left _ q hsrc hdest => ?_, fun e he => ?_, fun hc => absurd hc hnot⟩
    · exact hmoved.moves.sameAt (hsrc _ hmoved.named?_source) (hdest _ hmoved.named?_destination)
    · cases he
  · -- something fails before the copy is in its place
    rw [h]
    refine ⟨fun left hok => ?_, fun e' _ => ?_, fun hc => absurd hc hnot⟩
    · cases hok
    · exact ⟨fun _ hc => hnot hc.1, fun _ => hsame⟩
  · -- the copy is in its place
    rcases replaceFile_copied hd hnew hcopied with
      ⟨hthrough, hlinks, ⟨cause, hclosed⟩, hdiffers⟩ | ⟨hnot, d₃, hclosed, hd₃, hb, hk, hsame⟩
    · rw [h, hclosed]
      refine ⟨fun left hok => ?_, fun e _ => ?_, fun _ _ => ⟨hlinks hcopies.1, _, _, rfl⟩⟩
      · cases hok
      · exact ⟨fun hall => absurd hall hdiffers, fun hn => absurd ⟨hcopies, hthrough⟩ hn⟩
    · rw [h, hclosed]
      refine ⟨fun left _ q hsrc hdest => ?_, fun e he => ?_,
        fun _ hthrough => absurd hthrough hnot⟩
      · have hafter : d.SameAt d₃ q := hsame q fun hq => hdest q hq List.prefix_rfl
        refine hafter.trans (sameAt_unlinkOrKeep hd₃ fun p hp hqp => ?_)
        exact hsrc p (hk.named? hb hp) (hqp ▸ List.prefix_rfl)
      · cases he

/-! ## Two file systems -/

/-- A file, and a directory on another file system with a link to itself. -/
def twoSystems : Disk :=
  { (((((empty.newFile defaultMode).1.setContent 0 [1]).put ["s"] (.file 0)).put
      ["m"] .directory).put ["m", "x"] (.link ".")) with mounts := [["m"]] }

theorem wellFormed_twoSystems : twoSystems.WellFormed := by
  have hfile : ((empty.newFile defaultMode).1.setContent 0 [1]).WellFormed :=
    (wellFormed_empty.newFile defaultMode).setContent 0 [1]
  have hs : (((empty.newFile defaultMode).1.setContent 0 [1]).put ["s"] (.file 0)).WellFormed :=
    hfile.put_root (by decide) (by decide) fun id h => Entry.file.inj h ▸ by decide
  have hm : ((((empty.newFile defaultMode).1.setContent 0 [1]).put ["s"] (.file 0)).put ["m"]
      .directory).WellFormed := hs.put_root (by decide) (by decide) nofun
  have hx : (((((empty.newFile defaultMode).1.setContent 0 [1]).put ["s"] (.file 0)).put
      ["m"] .directory).put (["m"] ++ ["x"]) (.link ".")).WellFormed :=
    hm.put rfl (by decide) (by decide) nofun
  -- where file systems begin does not matter to a tree
  exact ⟨hx.above, hx.named, hx.numbered, hx.lost_le, hx.live, hx.suffixes⟩

/-- A file moved to another file system, where nothing else changes. -/
theorem replaceFile_atomic_two_systems :
    twoSystems.WellFormed ∧ (twoSystems.replaceFile "/s" "/m/d").2 = .ok none ∧
      twoSystems.SameAt (twoSystems.replaceFile "/s" "/m/d").1 ["m", "x"] := by
  have hok : (twoSystems.replaceFile "/s" "/m/d").2 = .ok none := by decide +kernel
  have hsrc : twoSystems.named? "/s" = some ["s"] := by decide +kernel
  have hdest : twoSystems.named? "/m/d" = some ["m", "d"] := by decide +kernel
  refine ⟨wellFormed_twoSystems, hok,
    (replaceFile_atomic wellFormed_twoSystems "/s" "/m/d").2.1 none hok _ ?_ ?_⟩
  · rintro p hp
    rw [← Option.some.inj (hsrc.symm.trans hp)]
    decide
  · rintro p hp
    rw [← Option.some.inj (hdest.symm.trans hp)]
    decide

/-- A path that goes through the link more often than a path may go through links. -/
def farPath : String := "/m" ++ String.join (List.replicate 41 "/x")

/-- **A copy that stays where it took the place of a link**, although replacing the file has
failed. -/
theorem replaceFile_fails_halfway :
    twoSystems.WellFormed ∧ (∃ e, (twoSystems.replaceFile "/s" farPath).2 = .error e) ∧
      twoSystems.item? ["m", "x"] = some (.link ".") ∧
      (twoSystems.replaceFile "/s" farPath).1.item? ["m", "x"] = some (.file [1]) ∧
      ¬∀ q, twoSystems.SameAt (twoSystems.replaceFile "/s" farPath).1 q := by
  have hbefore : twoSystems.item? ["m", "x"] = some (.link ".") := by decide +kernel
  obtain ⟨hafter, hfails⟩ :
      (twoSystems.replaceFile "/s" farPath).1.item? ["m", "x"] = some (.file [1]) ∧
        (twoSystems.replaceFile "/s" farPath).2.isOk = false := by decide +kernel
  refine ⟨wellFormed_twoSystems, ?_, hbefore, hafter, fun hall => ?_⟩
  · cases he : (twoSystems.replaceFile "/s" farPath).2 with
    | error e => exact ⟨e, rfl⟩
    | ok left =>
      rw [he] at hfails
      cases hfails
  · have hsame := (hall ["m", "x"]).item?_eq
    rw [hbefore, hafter] at hsame
    cases hsame

end Replica.Disk
