import Mathlib.Data.List.Basic
import Mathlib.Logic.Function.Basic
import Replica.Proofs.Disk.Promotion

/-!
# Temporary files at work

Any number of temporary files are made in a tree, written, promoted to destinations and closed, in
any order.

* `LiveTemp`, **`Session`**: the files that are not closed, and what was promoted where;
* `Session.Step`, `Session.perform`, `Session.run`: what is done with them;
* **`LiveTemp.StandsAt`**: where the path of a file leads, and what it holds;
* `StandsAt.frame`: a file still stands where it stood, when another one is made, written, closed or
  moved to where no entry is that its path needs;
* `StandsAt.appendTemp`, `StandsAt.promoted`, **`StandsAt.closeTemp_eq`**: the same of the file itself.
-/

namespace Replica

open Disk

/-- A temporary file that is not closed, with what has become of it. -/
structure LiveTemp where
  file : TempFile
  /-- The tree in which it was made. -/
  before : Disk
  written : Bytes
  isPromoted : Bool

/-- **A tree in which temporary files are at work.** -/
structure Session where
  disk : Disk
  /-- The files that are not closed, by the numbers of their contents. -/
  live : Nat → Option LiveTemp
  /-- What was promoted to a place last. -/
  delivered : Place → Option Bytes

namespace Session

/-! ## Steps -/

/-- **What is done with temporary files**. A file that is live is told by its number. Octets are
written through any handle: all of them write where the last one has stopped. -/
inductive Step where
  | create (draw : Nat → String) (dir : String) (options : TempOptions)
  | append (id : Nat) (bs : Bytes)
  | promote (draw : Nat → String) (id : Nat) (dest : String)
  | close (id : Nat)
  | drop (id : Nat)

/-- Nothing is at work yet. -/
def new (d : Disk) : Session := ⟨d, fun _ => none, fun _ => none⟩

/-- The next files get their names from these suffixes. -/
def drawing (s : Session) (draw : Nat → String) : Session := { s with disk := s.disk.drawing draw }

/-- A new file is live, and nothing is written to it yet. Where none can be made, nothing happens.
-/
def create (s : Session) (dir : String) (options : TempOptions) : Session :=
  match s.disk.createTemp dir options with
  | .error _ => s
  | .ok (d, file) =>
    { s with
      disk := d
      live := Function.update s.live file.id (some ⟨file, s.disk, [], false⟩) }

/-- Octets are written behind those that were written before. -/
def append (s : Session) (id : Nat) (bs : Bytes) : Session :=
  match s.live id with
  | none => s
  | some u =>
    let r := s.disk.appendTemp u.file bs
    { s with
      disk := r.1
      live := Function.update s.live id (some { u with file := r.2, written := u.written ++ bs }) }

/-- A file has replaced what the path of the destination names. -/
def deliver (s : Session) (id : Nat) (u : LiveTemp) (dest : String) (d : Disk) : Session where
  disk := d
  live := Function.update s.live id (some { u with isPromoted := true })
  delivered q := if s.disk.named? dest = some q then some u.written else s.delivered q

/-- A file replaces what is at `dest`. It stays live, whether that succeeds or fails. -/
def promote (s : Session) (id : Nat) (dest : String) : Session :=
  match s.live id with
  | none => s
  | some u =>
    match s.disk.replaceFile u.file.path dest with
    | (d, .error _) => { s with disk := d }
    | (d, .ok _) => s.deliver id u dest d

/-- A file is removed at its path and is not live any more, whether there was one to remove or not.
-/
def close (s : Session) (id : Nat) : Session :=
  match s.live id with
  | none => s
  | some u =>
    { s with disk := (s.disk.closeTemp u.file).1, live := Function.update s.live id none }

/-- A file is given up without being closed. -/
def drop (s : Session) (id : Nat) : Session :=
  match s.live id with
  | none => s
  | some u => { s with disk := s.disk.dropTemp u.file, live := Function.update s.live id none }

/-- **One step.** Suffixes are drawn where files are made. -/
def perform (s : Session) : Step → Session
  | .create draw dir options => (s.drawing draw).create dir options
  | .append id bs => s.append id bs
  | .promote draw id dest => (s.drawing draw).promote id dest
  | .close id => s.close id
  | .drop id => s.drop id

/-- One step after another. -/
def run (s : Session) (steps : List Step) : Session := steps.foldl perform s

/-! ## Where the files are -/

/-- The place of the entry that the path of a live file names. -/
def placeOf (s : Session) (id : Nat) : Option Place :=
  (s.live id).bind fun u => s.disk.named? u.file.path

/-- The path names the entry that the path of a live file names. -/
def IsStagingPath (s : Session) (dest : String) : Prop :=
  ∃ id p, s.placeOf id = some p ∧ s.disk.named? dest = some p

/-- A file that has not been promoted is at the place. -/
def Stages (s : Session) (q : Place) : Prop :=
  ∃ id u, s.live id = some u ∧ u.isPromoted = false ∧ s.disk.named? u.file.path = some q

/-- **What is to be at a place**: what was promoted there last, or what was there before. -/
def expected (s : Session) (start : Disk) (q : Place) : Option Item :=
  match s.delivered q with
  | some bs => some (.file bs)
  | none => start.item? q

end Session

/-- A path names an entry that is not there. -/
def Disk.Vacant (d : Disk) (path : String) : Prop := ∃ p, d.named? path = some p ∧ d.item? p = none

/-- **A live file stands at a place**: its path leads there. Until it is promoted, its content is
what was written to it, and is nowhere else in the tree. After that nothing is at the place. -/
structure LiveTemp.StandsAt (u : LiveTemp) (d : Disk) (dir : Place) (name : String) : Prop where
  located : d.locate u.file.path = .ok (.entry dir name false)
  short : isTooLong name = false
  entry : d.get? (dir ++ [name]) = if u.isPromoted then none else some (.file u.file.id)
  numbered : u.file.id < d.files.length
  content_eq : u.isPromoted = false → d.content u.file.id = u.written
  offset_eq : u.isPromoted = false → u.file.offset = u.written.length
  sole : u.isPromoted = false → ∀ q, d.get? q = some (.file u.file.id) → q = dir ++ [name]
  vacant : u.before.Vacant u.file.path

/-- **None of the names that are tried** for a temporary file is this one. -/
def Disk.NeverTries (d : Disk) (dir beginning name : String) : Prop :=
  ∀ there n, d.absolutePath dir = .ok there → Path.name (d.tempPath there beginning n) ≠ name

theorem LiveTemp.standsAt_new {d d' : Disk} {file : TempFile} {dir : Place} {name : String}
    {mode : Nat} (hd : d.WellFormed) (hs : d.Staged d' file dir name { mode })
    (hoffset : file.offset = 0) : LiveTemp.StandsAt ⟨file, d, [], false⟩ d' dir name where
  located := hs.locate_eq
  short := hs.short
  entry := hs.get?_self
  numbered := by simp [hs.id_eq, hs.files]
  content_eq _ := by rw [content, hs.body_eq]
  offset_eq _ := hoffset
  sole _ q hq := by
    rw [hs.get?_eq] at hq
    split at hq
    · assumption
    · have hlt := hd.numbered hq
      simp [hs.id_eq] at hlt
  vacant := ⟨_, named?_of_locate hs.located, by rw [item?, hs.new, Option.map_none]⟩

namespace LiveTemp.StandsAt

variable {u : LiveTemp} {d d' : Disk} {dir p q : Place} {name : String}

theorem named?_eq (h : u.StandsAt d dir name) : d.named? u.file.path = some (dir ++ [name]) :=
  named?_of_locate h.located

theorem entry_eq_file (h : u.StandsAt d dir name) (hu : u.isPromoted = false) :
    d.get? (dir ++ [name]) = some (.file u.file.id) := by
  rw [h.entry, hu, if_neg Bool.false_ne_true]

theorem entry_eq_none (h : u.StandsAt d dir name) (hu : u.isPromoted = true) :
    d.get? (dir ++ [name]) = none := by
  rw [h.entry, hu, if_pos rfl]

theorem entry_ne (h : u.StandsAt d dir name) : d.get? (dir ++ [name]) ≠ some .directory := by
  rw [h.entry]
  cases u.isPromoted <;> simp

/-- **It stands where it stood** in a tree with the same at its place, if its path leads there. -/
theorem frame (h : u.StandsAt d dir name)
    (hloc : d'.locate u.file.path = .ok (.entry dir name false))
    (hget : d'.get? (dir ++ [name]) = d.get? (dir ++ [name]))
    (hfiles : d.files.length ≤ d'.files.length)
    (hbody : u.isPromoted = false → d'.body u.file.id = d.body u.file.id)
    (hsole : ∀ q, d'.get? q = some (.file u.file.id) → d.get? q = some (.file u.file.id)) :
    u.StandsAt d' dir name where
  located := hloc
  short := h.short
  entry := hget.trans h.entry
  numbered := Nat.lt_of_lt_of_le h.numbered hfiles
  content_eq hu := by rw [content, hbody hu, ← content, h.content_eq hu]
  offset_eq := h.offset_eq
  sole hu q hq := h.sole hu q (hsole q hq)
  vacant := h.vacant

theorem of_givesBack (h : u.StandsAt d dir name) (hb : d.GivesBack d') : u.StandsAt d' dir name := by
  have hget : ∀ q, d'.get? q = d.get? q := fun q => (hb.sameAt q).entry
  refine h.frame ?_ (hget _) hb.files_le
    (fun hu => (hb.sameAt _).body _ (h.entry_eq_file hu)) fun q hq => hget q ▸ hq
  rw [locate_congr hb.base.lost hb.base.workingDir hget, h.located]

theorem of_staged (h : u.StandsAt d dir name) {temp : TempFile} {dir' : Place} {tmp : String}
    {body : FileBody} (hs : d.Staged d' temp dir' tmp body) (hne : dir ++ [name] ≠ dir' ++ [tmp]) :
    u.StandsAt d' dir name := by
  refine h.frame (locate_mono hs.keepsWays hs.base h.located) (by rw [hs.get?_eq, if_neg hne])
    (by simp [hs.files]) (fun _ => hs.body_of_lt h.numbered) fun q hq => ?_
  rw [hs.get?_eq] at hq
  split at hq
  · have hlt := h.numbered
    rw [← Entry.file.inj (Option.some.inj hq), hs.id_eq] at hlt
    exact absurd hlt (Nat.lt_irrefl _)
  · exact hq

theorem appendTemp (h : u.StandsAt d dir name) (hu : u.isPromoted = false) (bs : Bytes) :
    LiveTemp.StandsAt { u with file := (d.appendTemp u.file bs).2, written := u.written ++ bs }
      (d.appendTemp u.file bs).1 dir name := by
  have hoffset : u.file.offset = (d.content u.file.id).length := by
    rw [h.offset_eq hu, h.content_eq hu]
  rw [appendTemp_eq hoffset]
  exact
    { located := locate_setContent.trans h.located
      short := h.short
      entry := h.entry
      numbered := by simpa using h.numbered
      content_eq := fun _ => by
        simp only [content_setContent _ _ _ h.numbered, if_true, h.content_eq hu]
      offset_eq := fun _ => by simp [h.offset_eq hu]
      sole := h.sole
      vacant := h.vacant }

theorem of_appendTemp (h : u.StandsAt d dir name) {temp : TempFile} (hid : temp.id < d.files.length)
    (hne : u.file.id ≠ temp.id) (bs : Bytes) : u.StandsAt (d.appendTemp temp bs).1 dir name := by
  refine h.frame (locate_setContent.trans h.located) rfl ?_ (fun _ => ?_) fun _ hq => hq
  · exact Nat.le_of_eq length_files_setContent.symm
  · exact (body_setContent _ _ _ hid).trans (if_neg hne)

theorem prune (h : u.StandsAt d dir name) (hd : d.WellFormed) {id : Nat}
    (hp : d.get? p = some (.file id)) (hne : dir ++ [name] ≠ p) : u.StandsAt (d.prune p) dir name := by
  have hp' : d.get? p ≠ some .directory := by simp [hp]
  refine h.frame ?_ (by rw [hd.get?_prune hp', if_neg hne]) (Nat.le_refl _) (fun _ => rfl)
    fun q hq => hd.keepsEntries_prune hp' _ _ hq
  exact hd.locate_prune hp' (not_leadsOn_of_file hp) h.located

theorem of_movesTo (h : u.StandsAt d dir name) (hd : d.WellFormed) {id : Nat}
    (hm : d.MovesTo d' p q id) (hp : d.get? p = some (.file id))
    (hq : d.get? q ≠ some .directory) (hpq : p ≠ q) (hfree : ¬d.NeedsOnWay u.file.path q)
    (hid : u.file.id ≠ id) (hnep : dir ++ [name] ≠ p) (hneq : dir ++ [name] ≠ q) :
    u.StandsAt d' dir name := by
  have hp' : d.get? p ≠ some .directory := by simp [hp]
  have hget : ∀ r, r ≠ q → d'.get? r = if r = p then none else d.get? r :=
    fun r => hm.get?_eq hd hp'
  refine h.frame (hm.locate_eq hd hp hq hpq h.located hfree) (by rw [hget _ hneq, if_neg hnep])
    hm.files_le (fun _ => hm.body_eq _ h.numbered) fun r hr => ?_
  by_cases hrq : r = q
  · obtain ⟨k, hk, hnew, -⟩ := hm.holds
    obtain rfl : k = u.file.id := Entry.file.inj (Option.some.inj ((hrq ▸ hk).symm.trans hr))
    exact absurd h.numbered (Nat.not_lt.2 (hnew.resolve_left hid))
  · rw [hget r hrq] at hr
    split at hr
    · cases hr
    · exact hr

/-- **The file itself is moved**, or copied, and nothing is left where it was. -/
theorem promoted (h : u.StandsAt d dir name) (hd : d.WellFormed) (hu : u.isPromoted = false)
    (hm : d.MovesTo d' (dir ++ [name]) q u.file.id) (hq : d.get? q ≠ some .directory)
    (hne : dir ++ [name] ≠ q) (hfree : ¬d.NeedsOnWay u.file.path q) :
    LiveTemp.StandsAt { u with isPromoted := true } d' dir name where
  located := hm.locate_eq hd (h.entry_eq_file hu) hq hne h.located hfree
  short := h.short
  entry := by rw [hm.get?_eq hd h.entry_ne hne, if_pos rfl, if_pos rfl]
  numbered := Nat.lt_of_lt_of_le h.numbered hm.files_le
  content_eq := nofun
  offset_eq := nofun
  sole := nofun
  vacant := h.vacant

/-- **The file is closed**: its entry is removed, if it is there, and nothing else. -/
theorem closeTemp_eq (h : u.StandsAt d dir name) :
    d.closeTemp u.file = (if u.isPromoted then d else d.prune (dir ++ [name]), .ok ()) := by
  cases hu : u.isPromoted with
  | true =>
    have hunlink : d.unlink u.file.path = .error .noEntry := by
      simp [unlink, h.located, h.short, h.entry_eq_none hu]
    rw [closeTemp, hunlink, if_pos rfl]
  | false =>
    have hunlink : d.unlink u.file.path = .ok (d.prune (dir ++ [name])) := by
      simp [unlink, h.located, h.short, h.entry_eq_file hu]
    rw [closeTemp, hunlink, if_neg Bool.false_ne_true]

theorem vacant_closeTemp (h : u.StandsAt d dir name) (hd : d.WellFormed) :
    (d.closeTemp u.file).1.Vacant u.file.path := by
  refine ⟨dir ++ [name], ?_⟩
  rw [h.closeTemp_eq]
  cases hu : u.isPromoted with
  | true =>
    exact ⟨h.named?_eq, by rw [item?, if_pos rfl, h.entry_eq_none hu, Option.map_none]⟩
  | false =>
    rw [if_neg Bool.false_ne_true, hd.named?_prune (h.entry_eq_file hu), item?,
      hd.get?_prune h.entry_ne, if_pos rfl]
    exact ⟨h.named?_eq, rfl⟩

end LiveTemp.StandsAt

end Replica
