import Replica.Disk.Tree

/-!
# What the operations on a tree change

The tree is observed through `Disk.get?`, `Disk.body` and `Disk.content`. Each operation changes
the entries at one place or one file.

* **`Disk.get?_put`**, **`Disk.get?_prune`**: an entry added, a part of the tree removed;
* `Disk.sharesFile_iff`: two entries of one file;
* **`Disk.content_setContent`**: the content of one file set;
* `Disk.overwrite_length`: what is written at the end of a content is added to it;
* **`Disk.walkPath_eq_walk`**: paths lead through the tree alone, unless they begin in a working
  directory that has been removed.
-/

namespace Replica.Disk

variable {d : Disk} {p q : Place}

/-! ## Entries -/

theorem find?_filter_of_eq_false (keep : Place → Bool) (h : keep q = false)
    (entries : List (Place × Entry)) : find? q (entries.filter fun x => keep x.1) = none := by
  induction entries with
  | nil => rfl
  | cons x entries ih =>
    by_cases hx : keep x.1 = true
    · have hne : ¬x.1 = q := fun e => by rw [e, h] at hx; cases hx
      simp [hx, find?, hne, ih]
    · simp [hx, ih]

theorem find?_filter_of_eq_true (keep : Place → Bool) (h : keep q = true)
    (entries : List (Place × Entry)) :
    find? q (entries.filter fun x => keep x.1) = find? q entries := by
  induction entries with
  | nil => rfl
  | cons x entries ih =>
    by_cases hx : keep x.1 = true
    · simp [hx, find?, ih]
    · have hne : ¬x.1 = q := fun e => hx (e ▸ h)
      simp [hx, find?, hne, ih]

/-- **An entry added** to the tree. -/
theorem get?_put (e : Entry) (hp : p ≠ []) :
    (d.put p e).get? q = if q = p then some e else d.get? q := by
  by_cases hq : q = []
  · have hne : ¬q = p := fun h => hp (h ▸ hq)
    simp [get?, hq, Ne.symm hp]
  · by_cases h : q = p
    · simp [get?, put, find?, h, hp]
    · have := find?_filter_of_eq_true (fun r => decide (r ≠ p)) (q := q) (by simpa using h) d.entries
      simp only [get?, if_neg hq, if_neg h, put, find?, if_neg (Ne.symm h)]
      simpa using this

/-- **A part of the tree removed.** -/
theorem get?_prune (hp : p ≠ []) :
    (d.prune p).get? q = if p.isPrefixOf q then none else d.get? q := by
  by_cases hq : q = []
  · cases p with
    | nil => exact absurd rfl hp
    | cons a p => subst hq; simp [get?, List.isPrefixOf]
  · cases h : p.isPrefixOf q with
    | true =>
      have := find?_filter_of_eq_false (fun r => !p.isPrefixOf r) (q := q) (by simp [h]) d.entries
      simpa [get?, hq, prune] using this
    | false =>
      have := find?_filter_of_eq_true (fun r => !p.isPrefixOf r) (q := q) (by simp [h]) d.entries
      simpa [get?, hq, prune] using this

@[simp] theorem get?_setContent (id : Nat) (bs : Bytes) :
    (d.setContent id bs).get? q = d.get? q := rfl

@[simp] theorem get?_setMode (id mode : Nat) : (d.setMode id mode).get? q = d.get? q := rfl

@[simp] theorem get?_newFile (mode : Nat) : (d.newFile mode).1.get? q = d.get? q := rfl

@[simp] theorem entries_loseDir : (d.loseDir p).entries = d.entries := by
  unfold loseDir; split <;> rfl

@[simp] theorem entries_moveDir (dest : Place) : (d.moveDir p dest).entries = d.entries := by
  unfold moveDir; split <;> rfl

@[simp] theorem get?_loseDir : (d.loseDir p).get? q = d.get? q := by simp [get?]

@[simp] theorem get?_moveDir (dest : Place) : (d.moveDir p dest).get? q = d.get? q := by simp [get?]

@[simp] theorem get?_moveMounts (dest : Place) : (d.moveMounts p dest).get? q = d.get? q := rfl

/-! ## Files -/

@[simp] theorem body_put (e : Entry) (id : Nat) : (d.put p e).body id = d.body id := rfl

@[simp] theorem body_prune (id : Nat) : (d.prune p).body id = d.body id := rfl

@[simp] theorem body_graft (id : Nat) : (d.graft p q).body id = d.body id := rfl

@[simp] theorem body_loseDir (id : Nat) : (d.loseDir p).body id = d.body id := by
  unfold loseDir; split <;> rfl

@[simp] theorem body_moveDir (dest : Place) (id : Nat) : (d.moveDir p dest).body id = d.body id := by
  unfold moveDir; split <;> rfl

@[simp] theorem body_moveMounts (dest : Place) (id : Nat) :
    (d.moveMounts p dest).body id = d.body id := rfl

theorem body_setContent (id other : Nat) (bs : Bytes) (h : id < d.files.length) :
    (d.setContent id bs).body other =
      if other = id then { d.body id with content := bs } else d.body other := by
  by_cases e : other = id
  · subst e
    simp [setContent, body, List.getElem?_set_self h]
  · simp [setContent, body, List.getElem?_set_ne (Ne.symm e), e]

/-! ## Two entries of one file -/

theorem sharesFile_iff :
    d.sharesFile p q = true ↔ ∃ id, d.get? p = some (.file id) ∧ d.get? q = some (.file id) := by
  rw [sharesFile]
  split
  · rename_i id id' hp hq
    rw [beq_iff_eq]
    refine ⟨fun h => ⟨id, hp, h ▸ hq⟩, ?_⟩
    rintro ⟨k, hp', hq'⟩
    have hid := hp.symm.trans hp'
    have hid' := hq.symm.trans hq'
    simp only [Option.some.injEq, Entry.file.injEq] at hid hid'
    exact hid.trans hid'.symm
  · rename_i hnot
    exact ⟨nofun, fun ⟨id, hp, hq⟩ => absurd hq (hnot id id hp)⟩

theorem sharesFile_eq_false_of_file {id : Nat} (hp : d.get? p = some (.file id))
    (hq : d.get? q ≠ some (.file id)) : d.sharesFile p q = false := by
  rw [← Bool.not_eq_true, sharesFile_iff]
  rintro ⟨k, hk, hk'⟩
  obtain rfl := Entry.file.inj (Option.some.inj (hp.symm.trans hk))
  exact hq hk'

theorem sharesFile_eq_false_of_link {target : String} (hp : d.get? p = some (.link target))
    (q : Place) : d.sharesFile p q = false := by
  rw [← Bool.not_eq_true, sharesFile_iff]
  rintro ⟨k, hk, -⟩
  cases hp.symm.trans hk

/-! ## Contents -/

@[simp] theorem content_put (e : Entry) (id : Nat) : (d.put p e).content id = d.content id := rfl

@[simp] theorem content_prune (id : Nat) : (d.prune p).content id = d.content id := rfl

@[simp] theorem content_graft (id : Nat) : (d.graft p q).content id = d.content id := rfl

/-- **The content of one file set.** -/
theorem content_setContent (id other : Nat) (bs : Bytes) (h : id < d.files.length) :
    (d.setContent id bs).content other = if other = id then bs else d.content other := by
  rw [content, body_setContent id other bs h]
  by_cases e : other = id
  · rw [if_pos e, if_pos e]
  · rw [if_neg e, if_neg e, content]

/-! ## Where a path leads -/

@[simp] theorem walkFrom_zero (missing : Bool) (here : Place) (steps : List String) :
    d.walkFrom missing 0 here steps = (d.walk missing maxLinks here steps).map .place := by
  unfold walkFrom; rfl

/-- **A path leads through the tree alone** if it is absolute or the working directory is there. -/
theorem walkPath_eq_walk {path : String} (h : Path.isAbsolute path ∨ d.lost = 0) (missing : Bool)
    (steps : List String) :
    d.walkPath missing path steps =
      (d.walk missing maxLinks (start d.workingDir path) steps).map .place := by
  have hl : (if Path.isAbsolute path then 0 else d.lost) = 0 := by
    rcases h with h | h <;> simp [h]
  rw [walkPath, hl, walkFrom_zero]

theorem walkFrom_name {step : String} (h : step ≠ ".") (h' : step ≠ "..") (missing : Bool)
    (lost : Nat) (here : Place) (rest : List String) :
    d.walkFrom missing (lost + 1) here (step :: rest) = .error .noEntry := by
  rw [walkFrom, if_neg h, if_neg h']

/-! ## Writing -/

theorem overwrite_length (old bs : Bytes) : overwrite old old.length bs = old ++ bs := by
  simp [overwrite]

end Replica.Disk
