import Mathlib.Data.List.Basic
import Replica.Proofs.Disk.Kept

/-!
# Entries removed and moved

* `named?`: the place of the entry that a path names;
* **`unlink_eq_ok`**: an entry that could be removed, and what is left;
* `Moves`, **`rename_eq_ok`**: an entry that could be moved, and where to;
* **`Moves.sameAt`**: all that is not at or below the two places is as it was;
* **`Renames.get?_eq`**: what is where after an entry was moved that is no directory.
-/

namespace Replica.Disk

variable {d d' : Disk} {dir p q r : Place} {path src dest name : String} {slash : Bool} {e : Entry}

/-! ## Places of entries -/

/-- The place of the entry that a path names, if it names one. -/
def named? (d : Disk) (path : String) : Option Place :=
  match d.locate path with
  | .ok (.entry dir name _) => some (dir ++ [name])
  | _ => none

theorem named?_eq_some_iff :
    d.named? path = some p ↔
      ∃ dir name slash, d.locate path = .ok (.entry dir name slash) ∧ p = dir ++ [name] := by
  rw [named?]
  split
  · rename_i dir name slash h
    constructor
    · rintro ⟨⟩
      exact ⟨dir, name, slash, h, rfl⟩
    · rintro ⟨_, _, _, h', rfl⟩
      obtain ⟨rfl, rfl, -⟩ := Target.entry.inj (Except.ok.inj (h.symm.trans h'))
      rfl
  · rename_i hnot
    exact ⟨nofun, fun ⟨dir, name, slash, h, _⟩ => absurd h (hnot dir name slash)⟩

theorem named?_of_locate (h : d.locate path = .ok (.entry dir name slash)) :
    d.named? path = some (dir ++ [name]) :=
  named?_eq_some_iff.2 ⟨dir, name, slash, h, rfl⟩

theorem named?_drawing {draw : Nat → String} : (d.drawing draw).named? path = d.named? path := by
  rw [named?, named?, locate_drawing]

/-! ## Removal -/

/-- **An entry that could be removed** is no directory, and nothing but it is removed. -/
theorem unlink_eq_ok (h : d.unlink path = .ok d') :
    ∃ dir name e, d.locate path = .ok (.entry dir name false) ∧
      d.get? (dir ++ [name]) = some e ∧ e ≠ .directory ∧ d' = d.prune (dir ++ [name]) := by
  rw [unlink] at h
  split at h
  · cases h
  · cases h
  · cases h
  · rename_i dir name slash hloc
    split at h
    · cases h
    · split at h
      · cases h
      · cases h
      · rename_i e hnot hget
        cases slash with
        | true => cases h
        | false => exact ⟨dir, name, e, hloc, hget, hnot, (Except.ok.inj h).symm⟩

theorem WellFormed.sameAt_prune (hd : d.WellFormed) (hp : d.get? p ≠ some .directory)
    (hq : q ≠ p) : d.SameAt (d.prune p) q :=
  ⟨by rw [hd.get?_prune hp, if_neg hq], fun _ _ => body_prune _⟩

/-! ## Moves -/

/-- **What moving an entry to another place does**, of which none is above the other. -/
inductive Moves (d : Disk) (p q : Place) (e : Entry) : Disk → Prop
  /-- It is there already, or another entry of the same file. -/
  | stays (same : p = q ∨ d.sharesFile p q = true) : Moves d p q e d
  | entry (src_above : ¬p <+: q) (dest_above : ¬q <+: p) (moved : e ≠ .directory)
      (replaced : d.get? q ≠ some .directory) (other : d.sharesFile p q = false) :
      Moves d p q e (d.graft p q)
  | directory (src_above : ¬p <+: q) (dest_above : ¬q <+: p) (moved : e = .directory) :
      Moves d p q e ((((d.graft p q).loseDir q).moveDir p q).moveMounts p q)

theorem ne_of_not_above (h : ¬p <+: q) : p ≠ q := fun he => h (he ▸ List.prefix_rfl)

theorem not_prefix_concat (h : ¬p <+: dir) (hne : p ≠ dir ++ [name]) : ¬p <+: dir ++ [name] := by
  intro hp
  rcases List.prefix_concat_iff.1 (by simpa using hp) with hp | hp
  · exact hne (by simpa using hp)
  · exact h hp

/-- **An entry that could be moved.** -/
structure Renames (d d' : Disk) (src dest : String) (srcDir : Place) (srcName : String)
    (destDir : Place) (destName : String) (e : Entry) : Prop where
  source : ∃ slash, d.locate src = .ok (.entry srcDir srcName slash) ∧
    (e ≠ .directory → slash = false)
  destination : ∃ slash, d.locate dest = .ok (.entry destDir destName slash) ∧
    (e ≠ .directory → slash = false)
  source_short : isTooLong srcName = false
  destination_short : isTooLong destName = false
  get?_source : d.get? (srcDir ++ [srcName]) = some e
  moves : d.Moves (srcDir ++ [srcName]) (destDir ++ [destName]) e d'

theorem renameFile_eq_ok (h : d.renameFile p q = .ok d') :
    d.get? q ≠ some .directory ∧ d' = d.graft p q := by
  rw [renameFile] at h
  split at h
  · cases h
  · rename_i hq
    exact ⟨hq, (Except.ok.inj h).symm⟩

theorem renameDir_eq_ok (h : d.renameDir p q = .ok d') :
    d' = (((d.graft p q).loseDir q).moveDir p q).moveMounts p q := by
  simp only [renameDir] at h
  split at h
  · cases h
  · cases h
  · split at h
    · cases h
    · split at h
      · cases h
      · exact (Except.ok.inj h).symm

theorem renameEntry_eq_ok {srcDir destDir : Place} {srcName destName : String}
    {srcSlash destSlash : Bool}
    (h : d.renameEntry srcDir srcName srcSlash destDir destName destSlash = .ok d') :
    ∃ e, d.get? (srcDir ++ [srcName]) = some e ∧
      (e ≠ .directory → srcSlash = false ∧ destSlash = false) ∧
      isTooLong srcName = false ∧ isTooLong destName = false ∧
      d.Moves (srcDir ++ [srcName]) (destDir ++ [destName]) e d' := by
  simp only [renameEntry] at h
  split at h
  · cases h
  · rename_i hsrc
    split at h
    · cases h
    · rename_i e hget
      split at h
      · cases h
      · rename_i hdest
        split at h
        · cases h
        · rename_i hslash
          split at h
          · cases h
          · rename_i hsa
            split at h
            · cases h
            · rename_i hda
              have hslash' : e ≠ .directory → srcSlash = false ∧ destSlash = false := fun he =>
                ⟨by simpa using fun hs => hslash ⟨he, .inl hs⟩,
                  by simpa using fun hs => hslash ⟨he, .inr hs⟩⟩
              refine ⟨e, hget, hslash', by simpa using hsrc, by simpa using hdest, ?_⟩
              split at h
              · rename_i hsame
                obtain rfl := Except.ok.inj h
                exact .stays hsame
              · rename_i hnot
                obtain ⟨hne, hother⟩ := not_or.1 hnot
                have hs := not_prefix_concat (mt List.isPrefixOf_iff_prefix.2 hsa) hne
                have hd := not_prefix_concat (mt List.isPrefixOf_iff_prefix.2 hda) (Ne.symm hne)
                split at h
                · rename_i he
                  obtain rfl := renameDir_eq_ok h
                  exact .directory hs hd he
                · rename_i he
                  obtain ⟨hq, rfl⟩ := renameFile_eq_ok h
                  exact .entry hs hd he hq (Bool.eq_false_iff.2 hother)

theorem rename_eq_ok (h : d.rename src dest = .ok d') :
    ∃ srcDir srcName destDir destName e,
      d.Renames d' src dest srcDir srcName destDir destName e := by
  rw [rename] at h
  split at h
  · cases h
  · split at h
    · cases h
    · cases h
    · rename_i s t hs ht
      split at h
      · cases h
      · split at h
        · obtain ⟨e, hget, hslash, hsrc, hdest, hm⟩ := renameEntry_eq_ok h
          exact ⟨_, _, _, _, e, ⟨_, hs, fun he => (hslash he).1⟩, ⟨_, ht, fun he => (hslash he).2⟩,
            hsrc, hdest, hget, hm⟩
        · cases h
        · cases h
        · cases h
        · cases h

theorem Moves.sameAt (h : d.Moves p q e d') (hp : ¬p <+: r) (hq : ¬q <+: r) : d.SameAt d' r := by
  cases h with
  | stays => exact .refl d r
  | entry hs hd => exact ⟨by rw [get?_graft hs hd, if_neg hq, if_neg hp], fun _ _ => body_graft _⟩
  | directory hs hd =>
    refine ⟨?_, fun id _ => by simp⟩
    rw [get?_moveMounts, get?_moveDir, get?_loseDir, get?_graft hs hd, if_neg hq, if_neg hp]

theorem Moves.body_eq (h : d.Moves p q e d') (id : Nat) : d'.body id = d.body id := by
  cases h <;> simp

namespace Renames

variable {srcDir destDir : Place} {srcName destName : String}

theorem named?_source (h : d.Renames d' src dest srcDir srcName destDir destName e) :
    d.named? src = some (srcDir ++ [srcName]) := by
  obtain ⟨slash, hloc, -⟩ := h.source
  exact named?_of_locate hloc

theorem named?_destination (h : d.Renames d' src dest srcDir srcName destDir destName e) :
    d.named? dest = some (destDir ++ [destName]) := by
  obtain ⟨slash, hloc, -⟩ := h.destination
  exact named?_of_locate hloc

/-- **What is where** after an entry was moved that is no directory. -/
theorem get?_eq (h : d.Renames d' src dest srcDir srcName destDir destName e) (hd : d.WellFormed)
    (he : e ≠ .directory) (r : Place) :
    d'.get? r = if r = destDir ++ [destName] then some e
      else if r = srcDir ++ [srcName] ∧
        d.sharesFile (srcDir ++ [srcName]) (destDir ++ [destName]) = false then none
      else d.get? r := by
  obtain ⟨slash, hloc, -⟩ := h.destination
  cases h.moves with
  | stays same =>
    have hdest : d.get? (destDir ++ [destName]) = some e := by
      rcases same with same | same
      · rw [← same, h.get?_source]
      · obtain ⟨id, hp, hq⟩ := sharesFile_iff.1 same
        rw [hq, ← hp, h.get?_source]
    by_cases hr : r = destDir ++ [destName]
    · rw [if_pos hr, hr, hdest]
    · rw [if_neg hr, if_neg]
      rintro ⟨rfl, hother⟩
      rcases same with same | same
      · exact hr same
      · exact Bool.false_ne_true (hother.symm.trans same)
  | entry hs _ _ hnot hother =>
    simp only [hother, and_true]
    exact hd.get?_graft h.get?_source he (hd.of_locate hloc).1 hnot (ne_of_not_above hs)
  | directory _ _ hdir => exact absurd hdir he

theorem wellFormed (h : d.Renames d' src dest srcDir srcName destDir destName e)
    (hd : d.WellFormed) (he : e ≠ .directory) : d'.WellFormed ∧ d.SameBase d' := by
  obtain ⟨slash, hloc, -⟩ := h.destination
  obtain ⟨hdir, hname⟩ := hd.of_locate hloc
  cases h.moves with
  | stays => exact ⟨hd, .refl d⟩
  | entry hs _ _ hnot =>
    exact ⟨hd.graft h.get?_source he hdir hnot (ne_of_not_above hs) hname, ⟨rfl, rfl, rfl, rfl⟩⟩
  | directory _ _ hdir => exact absurd hdir he

end Renames

end Replica.Disk
