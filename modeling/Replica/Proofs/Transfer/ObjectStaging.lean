import Mathlib.Data.List.Basic
import Replica.Proofs.Disk.Entries
import Replica.Proofs.Transfer.States

/-!
# Staging without a local destination

A blob of which the storage is not on the local disk is staged in a directory of its own. Whatever
the storage does with the staged file, and however the transfer ends, nothing is left of it.

* `Disk.Stands`, `Disk.Gone`: the staged file is where its path names it, or it has gone from there;
* **`Disk.Handles`**, `Storage.OnlyHandles`: what a storage may do with it;
* **`Handles.keeps`**: the file stands or has gone after it, and the tree is a tree;
* **`closeTemp_gone`**: when it is closed then, it has gone;
* **`object_staging_no_trace`**: what a transfer leaves.
-/

namespace Replica

namespace Disk

variable {d d' d'' : Disk} {p q : Place} {path dest name : String} {temp : TempFile} {dir : Place}
  {body : FileBody}

/-- The entry that a path names, if it is there. A symbolic link is not followed. -/
def entryNamed? (d : Disk) (path : String) : Option Entry := (d.named? path).bind d.get?

/-! ## A file that is handed over -/

/-- **A file stands** at a place, and a path names it there. -/
def Stands (d : Disk) (path : String) (p : Place) : Prop :=
  ∃ dir name id, d.locate path = .ok (.entry dir name false) ∧ isTooLong name = false ∧
    p = dir ++ [name] ∧ d.get? p = some (.file id)

/-- **It has gone** from the place, and the path names nothing else. -/
def Gone (d : Disk) (path : String) (p : Place) : Prop :=
  d.get? p = none ∧ ∀ q, d.named? path = some q → q = p

/-- **What a storage may do** with the file at a path: something elsewhere, so that the file and the
way to it stay as they are; remove it; move it away; and one after the other. -/
inductive Handles (path : String) (p : Place) : Disk → Disk → Prop
  | elsewhere {d d' : Disk} (wellFormed : d'.WellFormed) (way : d'.locate path = d.locate path)
      (entry : d'.get? p = d.get? p) : Handles path p d d'
  | removes {d d' : Disk} (h : d.unlink path = .ok d') : Handles path p d d'
  | moves {d d' : Disk} (dest : String) (h : d.rename path dest = .ok d') : Handles path p d d'
  | andThen {d d' d'' : Disk} (h : Handles path p d d') (h' : Handles path p d' d'') :
      Handles path p d d''

theorem Handles.leaves (hd : d.WellFormed) : Handles path p d d := .elsewhere hd rfl rfl

theorem Gone.entryNamed?_eq_none (h : d.Gone path p) : d.entryNamed? path = none := by
  rw [entryNamed?]
  cases hn : d.named? path with
  | none => rfl
  | some q => rw [Option.bind_some, h.2 q hn, h.1]

theorem Stands.gone (h : d.Stands path p) (hk : d'.KeepsWays d) (hb : d.SameBase d')
    (hp : d'.get? p = none) : d'.Gone path p := by
  obtain ⟨dir, name, id, hloc, -, rfl, -⟩ := h
  refine ⟨hp, fun q hq => ?_⟩
  obtain ⟨dir', name', slash', hloc', rfl⟩ := named?_eq_some_iff.1 hq
  have hsame := hloc.symm.trans (locate_mono hk hb.symm hloc')
  obtain ⟨rfl, rfl, -⟩ := Target.entry.inj (Except.ok.inj hsame)
  rfl

theorem Stands.prune (h : d.Stands path p) (hd : d.WellFormed) :
    (d.prune p).WellFormed ∧ (d.prune p).Gone path p := by
  obtain ⟨dir, name, id, -, -, -, hget⟩ := id h
  have hnot : d.get? p ≠ some .directory := by simp [hget]
  exact ⟨hd.prune hnot, h.gone (hd.keepsEntries_prune hnot).keepsWays ⟨rfl, rfl, rfl, rfl⟩
    (by rw [hd.get?_prune hnot, if_pos rfl])⟩

/-- **A file that is moved** stands or has gone. -/
theorem Stands.rename (h : d.Stands path p) (hd : d.WellFormed) (hr : d.rename path dest = .ok d') :
    d'.WellFormed ∧ (d'.Stands path p ∨ d'.Gone path p) := by
  obtain ⟨srcDir, srcName, destDir, destName, e, hren⟩ := rename_eq_ok hr
  obtain ⟨dir, name, id, hloc, -, hp, hget⟩ := id h
  have hsame : srcDir ++ [srcName] = p :=
    Option.some.inj (hren.named?_source.symm.trans (hp ▸ named?_of_locate hloc))
  have he : e = .file id := Option.some.inj (hren.get?_source.symm.trans (hsame ▸ hget))
  have hne : e ≠ .directory := by simp [he]
  obtain ⟨hd', hb⟩ := hren.wellFormed hd hne
  have hwhere := hren.get?_eq hd hne
  refine ⟨hd', ?_⟩
  cases hren.moves with
  | stays => exact .inl h
  | directory _ _ hdir => exact absurd hdir hne
  | entry hs _ _ _ hother =>
    right
    have hdest : p ≠ destDir ++ [destName] := hsame ▸ Disk.ne_of_not_above hs
    refine h.gone ?_ hb (by rw [hwhere, if_neg hdest, if_pos ⟨hsame.symm, hother⟩])
    intro q e' hfile hq
    rw [hwhere] at hq
    split at hq
    · exact absurd ((Option.some.inj hq).symm.trans he) (hfile id)
    · split at hq
      · cases hq
      · exact hq

/-- **Whatever a storage does** with a file, the file stands or has gone. -/
theorem Handles.keeps (h : Handles path p d d') (hd : d.WellFormed)
    (hs : d.Stands path p ∨ d.Gone path p) :
    d'.WellFormed ∧ (d'.Stands path p ∨ d'.Gone path p) := by
  induction h with
  | elsewhere hd' hway hentry =>
    refine ⟨hd', hs.imp (fun ⟨dir, name, id, hloc, hshort, hp, hget⟩ => ?_) fun ⟨hnone, hq⟩ => ?_⟩
    · exact ⟨dir, name, id, hway.trans hloc, hshort, hp, hentry.trans hget⟩
    · refine ⟨hentry.trans hnone, fun q h => hq q ?_⟩
      rwa [named?, hway] at h
  | @removes d d' h =>
    obtain ⟨dir, name, e, hloc, hget, -, rfl⟩ := unlink_eq_ok h
    rcases hs with hs | ⟨hnone, hp⟩
    · obtain ⟨_, _, _, hloc', -, rfl, -⟩ := id hs
      obtain ⟨rfl, rfl, -⟩ := Target.entry.inj (Except.ok.inj (hloc.symm.trans hloc'))
      exact (hs.prune hd).imp_right .inr
    · rw [hp _ (named?_of_locate hloc), hnone] at hget
      cases hget
  | @moves d d' dest h =>
    rcases hs with hs | ⟨hnone, hp⟩
    · exact hs.rename hd h
    · obtain ⟨srcDir, srcName, destDir, destName, e, hren⟩ := rename_eq_ok h
      have hget := hren.get?_source
      rw [hp _ hren.named?_source, hnone] at hget
      cases hget
  | andThen _ _ ih ih' =>
    obtain ⟨hd', hs'⟩ := ih hd hs
    exact ih' hd' hs'

/-- **The file is closed**: it has gone then, and all else is as it was. -/
theorem closeTemp_gone (hd : d.WellFormed) (hs : d.Stands temp.path p ∨ d.Gone temp.path p) :
    (d.closeTemp temp).1.Gone temp.path p ∧ ∀ q, q ≠ p → d.SameAt (d.closeTemp temp).1 q := by
  rcases hs with hs | hs
  · obtain ⟨dir, name, id, hloc, hshort, rfl, hget⟩ := id hs
    have hunlink : d.unlink temp.path = .ok (d.prune (dir ++ [name])) := by
      simp [unlink, hloc, hshort, hget]
    rw [closeTemp, hunlink]
    exact ⟨(hs.prune hd).2, fun q hq => hd.sameAt_prune (by simp [hget]) hq⟩
  · have hsame : (d.closeTemp temp).1 = d := by
      rw [closeTemp]
      split
      · rename_i hunlink
        obtain ⟨dir, name, e, hloc, hget, -⟩ := unlink_eq_ok hunlink
        rw [hs.2 _ (named?_of_locate hloc), hs.1] at hget
        cases hget
      · rfl
      · rfl
    rw [hsame]
    exact ⟨hs, fun q _ => .refl d q⟩

theorem Staged.stands (h : d.Staged d' temp dir name body) : d'.Stands temp.path (dir ++ [name]) :=
  ⟨dir, name, temp.id, h.locate_eq, h.short, rfl, h.get?_self⟩

end Disk

/-- **A storage that only handles** what it is given, whatever it answers. -/
def Storage.OnlyHandles (s : Storage) : Prop :=
  ∀ path d p, d.WellFormed → d.Stands path p → Disk.Handles path p d (s.replaceFile path d).1

namespace Downloader

variable {dl : Downloader} {b : Blob} {d d₁ d₂ : Disk} {primary : Primary} {temp : TempFile}

theorem checkPreconditions_object {storage : Storage} (node : Node) (d : Disk)
    (h : storage.absolutePath? = none) : (checkPreconditions node storage d).1 = d := by
  rw [checkPreconditions]
  split
  · split
    · rfl
    · rw [h]
  · rfl

/-- **Staging leaves no trace.** Take a blob of which the storage is not on the local disk. If its
transfer makes no request, the tree is as it was. If it makes one, the staged file stood where
nothing was; when the transfer ends, nothing is there and the staged path names nothing, whatever
the primary has answered, and whatever the storage has done with the file and answers. If the
storage was not called, all else is as it was before the transfer; if it was, all else was so when
it was called, and is now as the storage has left it. -/
theorem object_staging_no_trace (dl : Downloader) (b : Blob) (hd : d.WellFormed)
    (hq : Client.Quiet dl.client) (hb : b.storage.absolutePath? = none)
    (hs : b.storage.OnlyHandles) :
    ((dl.execute b d).requests = [] → (dl.execute b d).disk = d) ∧
    ∀ d₁ d₂ primary temp, dl.Prepared b d d₁ d₂ primary temp →
      ∃ p, d.named? temp.path = some p ∧ d.get? p = none ∧
        (dl.execute b d).disk.get? p = none ∧
        (dl.execute b d).disk.entryNamed? temp.path = none ∧
        ((dl.execute b d).promotions = [] ∧ (∀ q, d.SameAt (dl.execute b d).disk q) ∨
          ∃ pr, (dl.execute b d).promotions = [pr] ∧ pr.path = temp.path ∧
            ∀ q, q ≠ p → d.SameAt pr.disk q ∧
              (b.storage.replaceFile pr.path pr.disk).1.SameAt (dl.execute b d).disk q) := by
  refine ⟨fun hnone => ?_, fun d₁ d₂ primary temp h => ?_⟩
  · rcases execute_cases dl b d with ⟨e, h, -⟩ | ⟨d₁, d₂, primary, temp, h⟩
    · rw [h]
      exact checkPreconditions_object dl.node d hb
    · rw [h.states_eq.1] at hnone
      cases hnone
  · obtain rfl : d = d₁ := by
      rw [← checkPreconditions_object dl.node d hb, h.preconditions]
    obtain ⟨-, dir, name, hstaged⟩ := Blob.staged_of_stage h.staged
    refine ⟨dir ++ [name], Disk.named?_of_locate hstaged.located, hstaged.new, ?_⟩
    rcases h.fetch_cases (Prod.ext (hq _ _) rfl) (.refl temp d₂) with
      ⟨response, -, -, hprom, hdisk, -⟩ | ⟨-, hprom, bs, e, hdisk, -⟩
    · have hwritten := hstaged.setContent (received response.body)
      obtain ⟨hd', hleft⟩ := (hs temp.path _ _ (hwritten.wellFormed hd) hwritten.stands).keeps
        (hwritten.wellFormed hd) (.inl hwritten.stands)
      obtain ⟨hgone, hothers⟩ := Disk.closeTemp_gone hd' hleft
      rw [hdisk]
      exact ⟨hgone.1, hgone.entryNamed?_eq_none, .inr ⟨_, hprom, rfl, fun q hne =>
        ⟨hwritten.sameAt hd hne, hothers q hne⟩⟩⟩
    · have hwritten := hstaged.setContent bs
      obtain ⟨hgone, -⟩ := Disk.closeTemp_gone (hwritten.wellFormed hd) (.inl hwritten.stands)
      rw [hdisk]
      exact ⟨hgone.1, hgone.entryNamed?_eq_none,
        .inl ⟨hprom, (hwritten.closeTemp_sameAt hd).2.2⟩⟩

/-- A storage that moves what it is given to one place, and says that it failed. -/
def movingAway : Storage where
  absolutePath? := none
  stagingDir? := some "/"
  replaceFile src d :=
    match d.rename src "/kept" with
    | .ok d' => (d', .error (.text "moved"))
    | .error e => (d, .error (.file (.io e)))

theorem onlyHandles_movingAway : movingAway.OnlyHandles := by
  intro path d p hd _
  simp only [movingAway]
  split
  · rename_i h
    exact .moves "/kept" h
  · exact .leaves hd

/-- A blob in that storage. -/
def movedAway : Blob := ⟨⟨"upload", 1⟩, none, movingAway⟩

/-- The staged file has gone where the storage moved it away and failed. -/
theorem object_staging_no_trace_moved_away :
    Disk.empty.WellFormed ∧ Client.Quiet twoPieces.client ∧
      movedAway.storage.absolutePath? = none ∧ movedAway.storage.OnlyHandles ∧
      ∃ p, Disk.empty.get? p = none ∧
        (twoPieces.execute movedAway Disk.empty).disk.get? p = none := by
  obtain ⟨⟨d₂, temp⟩, hs⟩ : ∃ r, movedAway.stage Disk.empty = .ok r := ⟨_, rfl⟩
  have hp : twoPieces.Prepared movedAway Disk.empty Disk.empty d₂ ⟨"http://primary"⟩ temp :=
    ⟨rfl, hs⟩
  obtain ⟨p, -, hbefore, hafter, -⟩ := (object_staging_no_trace twoPieces movedAway
    Disk.wellFormed_empty (fun _ _ => rfl) rfl onlyHandles_movingAway).2 _ _ _ _ hp
  exact ⟨Disk.wellFormed_empty, fun _ _ => rfl, rfl, onlyHandles_movingAway, p, hbefore, hafter⟩

end Downloader

end Replica
