import Mathlib.Data.List.Basic
import Replica.Disk.Staging
import Replica.Disk.View
import Replica.Proofs.Disk.Change

/-!
# Temporary files in a tree

* `createTemp_eq_ok`: a new temporary file stands where nothing stood, and is empty;
* `appendTemp_eq`, `setContent_content`: what is written to it;
* **`Staged`**: a tree with one temporary file more;
* `Staged.fileAt`, `fileAt_congr`: the path of the file leads to it, whatever files hold;
* `drawing`: the tree when other suffixes are drawn, where paths lead as they did;
* **`Staged.closeTemp`**: closing the file gives the tree back.
-/

namespace Replica.Disk

variable {d d' : Disk} {dir : Place} {path name : String} {slash : Bool} {temp : TempFile}
  {options : TempOptions} {id mode : Nat} {bs : Bytes}

/-! ## A new temporary file -/

theorem createNew_eq_ok (h : d.createNew path mode = .ok (d', id)) :
    ∃ dir name, d.locate path = .ok (.entry dir name false) ∧ isTooLong name = false ∧
      d.get? (dir ++ [name]) = none ∧ id = d.files.length ∧
      d' = (d.newFile mode).1.put (dir ++ [name]) (.file d.files.length) := by
  rw [createNew] at h
  split at h
  · cases h
  · cases h
  · cases h
  · rename_i dir name slash hloc
    split at h
    · cases h
    · rename_i hslash
      simp only [addEntry] at h
      split at h
      · cases h
      · rename_i hl
        split at h
        · cases h
        · rename_i hn
          obtain ⟨rfl, rfl⟩ := Prod.mk.inj (Except.ok.inj h)
          refine ⟨dir, name, ?_, by simpa using hl, by simpa using hn, rfl, rfl⟩
          rw [hloc, Bool.eq_false_iff.2 hslash]

theorem createTempFrom_eq_ok {there : String} {n limit : Nat}
    (h : d.createTempFrom there options n limit = .ok (d', temp)) :
    ∃ k dir name, temp = ⟨d.tempPath there options.beginning k, d.files.length, 0⟩ ∧
      d.locate temp.path = .ok (.entry dir name false) ∧ isTooLong name = false ∧
      d.get? (dir ++ [name]) = none ∧
      d' = (d.newFile options.mode).1.put (dir ++ [name]) (.file d.files.length) := by
  -- on how many suffixes may still be tried
  induction limit generalizing n with
  | zero => cases h
  | succ limit ih =>
    unfold createTempFrom at h
    dsimp only at h
    split at h
    · rename_i hnew
      obtain ⟨rfl, rfl⟩ := Prod.mk.inj (Except.ok.inj h)
      obtain ⟨dir, name, hloc, hl, hn, rfl, rfl⟩ := createNew_eq_ok hnew
      exact ⟨n, dir, name, rfl, hloc, hl, hn, rfl⟩
    · exact ih h
    · cases h

/-- **A new temporary file** stands where nothing stood, and is empty. -/
theorem createTemp_eq_ok {parent : String} (h : d.createTemp parent options = .ok (d', temp)) :
    ∃ there k dir name, d.absolutePath parent = .ok there ∧
      temp = ⟨d.tempPath there options.beginning k, d.files.length, 0⟩ ∧
      d.locate temp.path = .ok (.entry dir name false) ∧ isTooLong name = false ∧
      d.get? (dir ++ [name]) = none ∧
      d' = (d.newFile options.mode).1.put (dir ++ [name]) (.file d.files.length) := by
  rw [createTemp] at h
  split at h
  · cases h
  · rename_i there hthere
    obtain ⟨k, dir, name, hrest⟩ := createTempFrom_eq_ok (mapError_eq_ok.1 h)
    exact ⟨there, k, dir, name, hthere, hrest⟩

theorem createTemp_eq_error {parent : String} {e : FileError}
    (h : d.createTemp parent options = .error e) : ∃ cause, e = .tempFile parent cause := by
  rw [createTemp] at h
  split at h
  · exact ⟨_, (Except.error.inj h).symm⟩
  · obtain ⟨cause, -, rfl⟩ := mapError_eq_error.1 h
    exact ⟨cause, rfl⟩

theorem closeTemp_eq_error {e : FileError} (h : d.closeTemp temp = (d', .error e)) :
    ∃ cause, e = .remove temp.path cause := by
  rw [closeTemp] at h
  split at h
  · cases h
  · cases h
  · exact ⟨_, (Except.error.inj (Prod.mk.inj h).2).symm⟩

/-- No temporary file gets this name. -/
def NeverDraws (d : Disk) (name : String) : Prop := ∀ n, tempPrefix ++ d.draw n ≠ name

theorem NeverDraws.of_sameBase (h : d.NeverDraws name) (hb : d.SameBase d') :
    d'.NeverDraws name := fun n => by
  rw [hb.draw]
  exact h n

theorem neverDraws_of_not_prefix (h : ¬tempPrefix.toList <+: name.toList) : d.NeverDraws name := by
  intro n hn
  rw [← hn, String.toList_append] at h
  exact h (List.prefix_append _ _)

/-! ## What is written to it -/

theorem setContent_content (h : id < d.files.length) : d.setContent id (d.content id) = d := by
  have hbody : d.body id = d.files[id] := by simp [body, h]
  have hset : d.files.set id d.files[id] = d.files := List.set_getElem_self h
  rw [setContent, content, hbody]
  exact congrArg (fun files => { d with files }) hset

theorem setContent_setContent (h : id < d.files.length) (bs bs' : Bytes) :
    (d.setContent id bs).setContent id bs' = d.setContent id bs' := by
  have hbody := body_setContent id id bs h
  rw [if_pos rfl] at hbody
  rw [setContent, hbody]
  simp [setContent]

@[simp] theorem length_files_setContent : (d.setContent id bs).files.length = d.files.length := by
  simp [setContent]

theorem appendTemp_eq (h : temp.offset = (d.content temp.id).length) (bs : Bytes) :
    d.appendTemp temp bs =
      (d.setContent temp.id (d.content temp.id ++ bs),
        { temp with offset := temp.offset + bs.length }) := by
  rw [appendTemp, h, overwrite_length]

/-! ## What paths lead to -/

theorem walk_congr (h : ∀ p, d'.get? p = d.get? p) (missing : Bool) (links : Nat) :
    d'.walk missing links = d.walk missing links := by
  have hwith : ∀ follow here steps,
      d'.walkWith missing follow here steps = d.walkWith missing follow here steps := by
    intro follow here steps
    induction steps generalizing here with
    | nil => rfl
    | cons step rest ih => simp only [walkWith, h, ih]
  induction links with
  | zero =>
    funext here steps
    exact hwith _ here steps
  | succ links ih =>
    funext here steps
    rw [walk, walk, ih]
    exact hwith _ here steps

theorem walkPath_congr (hlost : d'.lost = d.lost) (hdir : d'.workingDir = d.workingDir)
    (h : ∀ p, d'.get? p = d.get? p) (missing : Bool) (path : String) (steps : List String) :
    d'.walkPath missing path steps = d.walkPath missing path steps := by
  have hfrom : ∀ lost here steps,
      d'.walkFrom missing lost here steps = d.walkFrom missing lost here steps := by
    intro lost here steps
    induction steps generalizing lost here with
    | nil => cases lost <;> simp only [walkFrom, walk_congr h]
    | cons step rest ih => cases lost <;> simp only [walkFrom, walk_congr h, ih]
  simp only [walkPath, hlost, hdir, hfrom]

/-- **Where a path leads** depends only on what is where, and on where relative paths begin. -/
theorem resolve_congr (hlost : d'.lost = d.lost) (hdir : d'.workingDir = d.workingDir)
    (h : ∀ p, d'.get? p = d.get? p) (path : String) : d'.resolve path = d.resolve path := by
  simp only [resolve, walkPath_congr hlost hdir h]

theorem locate_congr (hlost : d'.lost = d.lost) (hdir : d'.workingDir = d.workingDir)
    (h : ∀ p, d'.get? p = d.get? p) (path : String) : d'.locate path = d.locate path := by
  simp only [locate, walkPath_congr hlost hdir h]

theorem fileAt_congr (hb : d.SameBase d') (h : ∀ p, d'.get? p = d.get? p) (path : String) :
    d'.fileAt path = d.fileAt path := by
  rw [fileAt, fileAt, resolve_congr hb.lost hb.workingDir h]
  split
  · rfl
  · rename_i spot _
    cases spot with
    | place p => simp only [entryAt?, h]
    | removed p => rfl

theorem fileAt_setContent : (d.setContent id bs).fileAt path = d.fileAt path :=
  fileAt_congr (show d.SameBase (d.setContent id bs) from ⟨rfl, rfl, rfl, rfl⟩) (fun _ => rfl) path

theorem locate_setContent : (d.setContent id bs).locate path = d.locate path := by
  have hlost : (d.setContent id bs).lost = d.lost := rfl
  have hdir : (d.setContent id bs).workingDir = d.workingDir := rfl
  exact locate_congr hlost hdir (fun _ => rfl) path

theorem fileAt_eq_ok_iff {init : List String} {left : Nat} (hc : check path = .ok ())
    (hsteps : Path.steps path = init ++ [name]) (hl : d.Leads path init left (.place dir)) :
    d.fileAt path = .ok id ↔
      ∃ q, d.walk false left dir [name] = .ok q ∧ d.get? q = some (.file id) := by
  rw [fileAt, resolve, hc, hsteps]
  simp only [hl.walkPath_append]
  cases hw : d.walk false left dir [name] with
  | error e => simp [Except.map]
  | ok q =>
    simp only [Except.map, entryAt?, Except.ok.injEq, exists_eq_left']
    split
    · rename_i hget
      simp [hget]
    · rename_i hnot
      exact ⟨fun h => (by cases h), fun h => absurd h (hnot id)⟩

theorem fileAt_of_locate (h : d.locate path = .ok (.entry dir name false))
    (hshort : isTooLong name = false) (hf : d.get? (dir ++ [name]) = some (.file id)) :
    d.fileAt path = .ok id := by
  obtain ⟨hc, hdot, hup, hslash, init, left, hinit, hl⟩ := locate_eq_entry_iff.1 h
  have hsteps := (Path.steps_eq_parts hslash.symm).trans hinit
  refine (fileAt_eq_ok_iff hc hsteps hl).2 ⟨_, ?_, hf⟩
  rw [walk_name ⟨hdot, hup, hshort⟩, hf]
  rfl

/-! ## Other suffixes -/

/-- The tree, when other suffixes are drawn. -/
def drawing (d : Disk) (draw : Nat → String) : Disk := { d with draw }

section Drawing

variable {draw : Nat → String}

theorem resolve_drawing : (d.drawing draw).resolve path = d.resolve path := by
  have hlost : (d.drawing draw).lost = d.lost := rfl
  have hdir : (d.drawing draw).workingDir = d.workingDir := rfl
  exact resolve_congr hlost hdir (fun _ => rfl) path

theorem locate_drawing : (d.drawing draw).locate path = d.locate path := by
  have hlost : (d.drawing draw).lost = d.lost := rfl
  have hdir : (d.drawing draw).workingDir = d.workingDir := rfl
  exact locate_congr hlost hdir (fun _ => rfl) path

theorem isDir_drawing : (d.drawing draw).isDir path = d.isDir path := by
  rw [isDir, isDir, resolve_drawing]
  split
  · rename_i spot _
    cases spot <;> rfl
  · rfl

theorem WellFormed.drawing (hd : d.WellFormed)
    (h : ∀ n, ∀ c ∈ (draw n).toList, c ∈ suffixAlphabet) : (d.drawing draw).WellFormed :=
  ⟨hd.above, hd.named, hd.numbered, hd.lost_le, hd.live, h⟩

end Drawing

/-! ## One temporary file more -/

/-- **The tree `d` with one temporary file more**, under a new name in a directory. -/
structure Staged (d d' : Disk) (temp : TempFile) (dir : Place) (name : String) (body : FileBody) :
    Prop where
  located : d.locate temp.path = .ok (.entry dir name false)
  short : isTooLong name = false
  new : d.get? (dir ++ [name]) = none
  id_eq : temp.id = d.files.length
  base : d.SameBase d'
  get?_eq : ∀ q, d'.get? q = if q = dir ++ [name] then some (.file temp.id) else d.get? q
  files : d'.files = d.files ++ [body]

theorem staged_of_createTemp {parent : String} (h : d.createTemp parent options = .ok (d', temp)) :
    temp.offset = 0 ∧ ∃ dir name, d.Staged d' temp dir name { mode := options.mode } := by
  obtain ⟨there, k, dir, name, -, rfl, hloc, hl, hn, rfl⟩ := createTemp_eq_ok h
  exact ⟨rfl, dir, name, hloc, hl, hn, rfl, ⟨rfl, rfl, rfl, rfl⟩, fun q => get?_put _ (by simp),
    rfl⟩

namespace Staged

variable {body : FileBody}

theorem body_eq (h : d.Staged d' temp dir name body) : d'.body temp.id = body := by
  simp [Disk.body, h.id_eq, h.files]

theorem get?_self (h : d.Staged d' temp dir name body) :
    d'.get? (dir ++ [name]) = some (.file temp.id) := by
  rw [h.get?_eq, if_pos rfl]

theorem sharesFile_eq_false (h : d.Staged d' temp dir name body) (hd : d.WellFormed) {q : Place}
    (hq : q ≠ dir ++ [name]) : d'.sharesFile (dir ++ [name]) q = false := by
  refine sharesFile_eq_false_of_file h.get?_self fun hfile => ?_
  rw [h.get?_eq, if_neg hq] at hfile
  exact absurd (hd.numbered hfile) (by simp [h.id_eq])

theorem body_of_lt (h : d.Staged d' temp dir name body) (hid : id < d.files.length) :
    d'.body id = d.body id := by
  simp [Disk.body, h.files, List.getElem?_append_left hid]

theorem setContent (h : d.Staged d' temp dir name body) (bs : Bytes) :
    d.Staged (d'.setContent temp.id bs) temp dir name { body with content := bs } where
  located := h.located
  short := h.short
  new := h.new
  id_eq := h.id_eq
  base := h.base.trans ⟨rfl, rfl, rfl, rfl⟩
  get?_eq := h.get?_eq
  files := by
    rw [Disk.setContent, h.body_eq, h.files, h.id_eq]
    simp

theorem keepsEntries (h : d.Staged d' temp dir name body) : d.KeepsEntries d' :=
  keepsEntries_of_new h.new fun q hq => by rw [h.get?_eq, if_neg hq]

theorem keepsWays (h : d.Staged d' temp dir name body) : d.KeepsWays d' :=
  h.keepsEntries.keepsWays

theorem keepsWays_symm (h : d.Staged d' temp dir name body) : d'.KeepsWays d := by
  intro q e he hq
  rw [h.get?_eq] at hq
  split at hq
  · exact absurd (Option.some.inj hq).symm (he _)
  · exact hq

theorem wellFormed (h : d.Staged d' temp dir name body) (hd : d.WellFormed) : d'.WellFormed := by
  obtain ⟨hdir, hname⟩ := hd.of_locate h.located
  have hput := (hd.newFile body.mode).put (e := .file temp.id) hdir (by simp [h.new]) hname
    fun id hid => by
      rw [← Entry.file.inj hid, h.id_eq]
      simp [Disk.newFile]
  refine hput.of_get? ⟨h.base.workingDir, h.base.lost, h.base.mounts, h.base.draw⟩ ?_ fun q => ?_
  · simp [h.files, Disk.put, Disk.newFile]
  · rw [h.get?_eq, get?_put _ (by simp)]
    rfl

theorem isDir_eq (h : d.Staged d' temp dir name body) (hd : d.WellFormed) (path : String) :
    d'.isDir path = d.isDir path := by
  have hd' := h.wellFormed hd
  rw [Bool.eq_iff_iff]
  exact ⟨hd'.isDir_mono hd h.keepsWays_symm h.base.symm, hd.isDir_mono hd' h.keepsWays h.base⟩

theorem locate_eq (h : d.Staged d' temp dir name body) :
    d'.locate temp.path = .ok (.entry dir name false) :=
  locate_mono h.keepsWays h.base h.located

theorem fileAt (h : d.Staged d' temp dir name body) : d'.fileAt temp.path = .ok temp.id :=
  fileAt_of_locate h.locate_eq h.short h.get?_self

/-- **Closing the file gives the tree back.** -/
theorem closeTemp (h : d.Staged d' temp dir name body) :
    d'.closeTemp temp = (d'.prune (dir ++ [name]), .ok ()) := by
  have hunlink : d'.unlink temp.path = .ok (d'.prune (dir ++ [name])) := by
    simp [unlink, h.locate_eq, h.short, h.get?_self]
  rw [Disk.closeTemp, hunlink]

theorem get?_prune (h : d.Staged d' temp dir name body) (hd : d.WellFormed) (q : Place) :
    (d'.prune (dir ++ [name])).get? q = d.get? q := by
  rw [(h.wellFormed hd).get?_prune (by simp [h.get?_self]), h.get?_eq]
  split
  · rename_i hq
    rw [hq, h.new]
  · rfl

end Staged

end Replica.Disk
