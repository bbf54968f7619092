import Mathlib.Data.List.Basic
import Replica.Proofs.Disk.Destination
import Replica.Proofs.Disk.Placed

/-!
# What is kept in a tree

* **`SameAt`**: what is at a place is as it was, and `GivesBack`: what is at every place is;
* **`KeptAt`**: it is, or it is a new directory;
* `KeptAt.item?_cases`: the same for what an observer sees;
* **`KeptFor`**: new directories are those above a path;
* **`Staged.closeTemp_sameAt`**: all is as it was when a temporary file is closed;
* **`Staged.graft_sameAt`**: all but its destination is as it was when it takes its place.
-/

namespace Replica.Disk

variable {d d' d'' : Disk} {dir p : Place} {path name : String} {temp : TempFile} {body : FileBody}

/-! ## Places that are kept -/

/-- **What is at a place is as it was**, with the same content and mode if it is a file. -/
structure SameAt (d d' : Disk) (p : Place) : Prop where
  entry : d'.get? p = d.get? p
  body : ∀ id, d.get? p = some (.file id) → d'.body id = d.body id

theorem SameAt.refl (d : Disk) (p : Place) : d.SameAt d p := ⟨rfl, fun _ _ => rfl⟩

theorem SameAt.trans (h : d.SameAt d' p) (h' : d'.SameAt d'' p) : d.SameAt d'' p :=
  ⟨h'.entry.trans h.entry, fun id hid =>
    (h'.body id (h.entry.trans hid)).trans (h.body id hid)⟩

theorem SameAt.item?_eq (h : d.SameAt d' p) : d'.item? p = d.item? p := by
  rw [item?, item?, h.entry]
  cases hget : d.get? p with
  | none => rfl
  | some e =>
    cases e with
    | file id => simp [content, h.body id hget]
    | directory => rfl
    | link target => rfl

/-- **A tree given back**: all in it is as it was. Files may have been made that stand nowhere. -/
structure GivesBack (d d' : Disk) : Prop where
  base : d.SameBase d'
  files_le : d.files.length ≤ d'.files.length
  sameAt : ∀ p, d.SameAt d' p

theorem GivesBack.refl (d : Disk) : d.GivesBack d := ⟨.refl d, Nat.le_refl _, .refl d⟩

theorem GivesBack.wellFormed (h : d.GivesBack d') (hd : d.WellFormed) : d'.WellFormed :=
  hd.of_get? h.base h.files_le fun p => (h.sameAt p).entry

/-- **What is at a place is kept**: it is as it was, or it is a directory where nothing was. -/
inductive KeptAt (d d' : Disk) (p : Place) : Prop
  | same (h : d.SameAt d' p)
  | made (absent : d.get? p = none) (directory : d'.get? p = some .directory)

namespace KeptAt

theorem refl (d : Disk) (p : Place) : d.KeptAt d p := .same (.refl d p)

theorem trans (h : d.KeptAt d' p) (h' : d'.KeptAt d'' p) : d.KeptAt d'' p := by
  cases h with
  | same h =>
    cases h' with
    | same h' => exact .same (h.trans h')
    | made hn hdir => exact .made (h.entry ▸ hn) hdir
  | made hn hdir =>
    cases h' with
    | same h' => exact .made hn (h'.entry.trans hdir)
    | made hn' =>
      rw [hdir] at hn'
      cases hn'

theorem item?_cases (h : d.KeptAt d' p) :
    d'.item? p = d.item? p ∨ d.item? p = none ∧ d'.item? p = some .directory := by
  cases h with
  | same h => exact .inl h.item?_eq
  | made hn hdir =>
    right
    simp [item?, hn, hdir]

theorem item?_file {bs : Bytes} (h : d.KeptAt d' p) (hp : d.item? p = some (.file bs)) :
    d'.item? p = some (.file bs) := by
  rcases h.item?_cases with he | ⟨hn, -⟩
  · rw [he, hp]
  · rw [hn] at hp
    cases hp

end KeptAt

theorem Grows.keptAt (h : d.Grows d') (p : Place) : d.KeptAt d' p := by
  rcases h.get?_cases p with he | ⟨hn, hdir⟩
  · exact .same ⟨he, fun id _ => by rw [body, body, h.files]⟩
  · exact .made hn hdir

/-- **A place is kept for a path**: if a directory is new there, it is above the path. -/
structure KeptFor (d d' : Disk) (path : String) (p : Place) : Prop where
  keptAt : d.KeptAt d' p
  isAbove : d.get? p = none → d'.get? p ≠ none → (d.ensureParentDir path).1.IsAbove path p

theorem SameAt.keptFor (h : (d.ensureParentDir path).1.SameAt d' p) (hd : d.WellFormed) :
    d.KeptFor d' path p :=
  ⟨((hd.ensureParentDir path).2.keptAt p).trans (.same h),
    fun hn hp => isAbove_of_ensureParentDir hd hn (h.entry ▸ hp)⟩

namespace Staged

theorem sameAt (h : d.Staged d' temp dir name body) (hd : d.WellFormed) (hp : p ≠ dir ++ [name]) :
    d.SameAt d' p :=
  ⟨by rw [h.get?_eq, if_neg hp], fun _ hid => h.body_of_lt (hd.numbered hid)⟩

theorem closeTemp_sameAt (h : d.Staged d' temp dir name body) (hd : d.WellFormed) :
    (d'.closeTemp temp).1.WellFormed ∧ d.SameBase (d'.closeTemp temp).1 ∧
      ∀ p, d.SameAt (d'.closeTemp temp).1 p := by
  have hbase : d.SameBase (d'.prune (dir ++ [name])) :=
    ⟨h.base.workingDir, h.base.lost, h.base.mounts, h.base.draw⟩
  rw [h.closeTemp]
  refine ⟨hd.of_get? hbase ?_ (h.get?_prune hd), hbase, fun p => ⟨h.get?_prune hd p, ?_⟩⟩
  · simp [Disk.prune, h.files]
  · intro id hid
    rw [body_prune, h.body_of_lt (hd.numbered hid)]

theorem closeTemp_givesBack (h : d.Staged d' temp dir name body) (hd : d.WellFormed) :
    d.GivesBack (d'.closeTemp temp).1 := by
  obtain ⟨-, hbase, hsame⟩ := h.closeTemp_sameAt hd
  refine ⟨hbase, ?_, hsame⟩
  rw [h.closeTemp]
  simp [Disk.prune, h.files]

theorem graft_sameAt (h : d.Staged d' temp dir name body) (hd : d.WellFormed) {last : String}
    {slash : Bool} (hloc : d.locate path = .ok (.entry dir last slash))
    (hn : d.get? (dir ++ [last]) ≠ some .directory) (hne : last ≠ name) :
    let moved := d'.graft (dir ++ [name]) (dir ++ [last])
    moved.WellFormed ∧ d.SameBase moved ∧ moved.item? (dir ++ [last]) = some (.file body.content) ∧
      ∀ p, p ≠ dir ++ [last] → d.SameAt moved p := by
  intro moved
  have hget := h.get?_graft hd hn hne
  have hne' : dir ++ [name] ≠ dir ++ [last] := by simpa using hne.symm
  obtain ⟨hdir, hname⟩ := hd.of_locate hloc
  have hdir' : d'.get? dir = some .directory := h.keepsWays _ _ nofun hdir
  have hn' : d'.get? (dir ++ [last]) ≠ some .directory := by
    rwa [h.get?_eq, if_neg hne'.symm]
  refine ⟨(h.wellFormed hd).graft h.get?_self nofun hdir' hn' hne' hname,
    ⟨h.base.workingDir, h.base.lost, h.base.mounts, h.base.draw⟩, ?_, fun p hp => ⟨?_, ?_⟩⟩
  · simp [moved, item?, hget, content, h.body_eq]
  · rw [hget, if_neg hp]
  · intro id hid
    rw [body_graft, h.body_of_lt (hd.numbered hid)]

end Staged

end Replica.Disk
