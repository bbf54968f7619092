import Mathlib.Data.List.Basic
import Replica.Proofs.Disk.Walk

/-!
# Trees that are trees

A `Disk` is any list of entries. In one that stands for a tree, every entry is in a directory and
every file has a body.

* **`WellFormed`**;
* **`Leads`**: where the steps of a path lead, from where the path begins. They lead to directories;
* **`isDir_iff`**, **`locate_eq_entry_iff`**: paths to directories and paths that name entries, by
  what their parts pass.
-/

namespace Replica.Disk

/-- A text that an entry can have as its name. -/
structure IsEntryName (name : String) : Prop where
  ne_empty : name ≠ ""
  no_slash : '/' ∉ name.toList
  ne_dot : name ≠ "."
  ne_up : name ≠ ".."

instance (name : String) : Decidable (IsEntryName name) :=
  decidable_of_iff (name ≠ "" ∧ '/' ∉ name.toList ∧ name ≠ "." ∧ name ≠ "..")
    ⟨fun ⟨hempty, hslash, hdot, hup⟩ => ⟨hempty, hslash, hdot, hup⟩,
      fun h => ⟨h.ne_empty, h.no_slash, h.ne_dot, h.ne_up⟩⟩

/-- **The entries are a tree.** -/
structure WellFormed (d : Disk) : Prop where
  /-- What stands at a place stands in a directory. -/
  above : ∀ {dir name e}, d.get? (dir ++ [name]) = some e → d.get? dir = some .directory
  /-- It has a name that a path can have as a part. -/
  named : ∀ {dir name e}, d.get? (dir ++ [name]) = some e → IsEntryName name
  /-- A file has a body. -/
  numbered : ∀ {p id}, d.get? p = some (.file id) → id < d.files.length
  /-- Of the working directory at most its own names are lost. -/
  lost_le : d.lost ≤ d.workingDir.length
  /-- What is not lost of it is there. -/
  live : d.get? d.liveDir = some .directory
  /-- Suffixes have letters and digits alone. -/
  suffixes : ∀ n, ∀ c ∈ (d.draw n).toList, c ∈ suffixAlphabet

variable {d : Disk} {links left lost : Nat} {here dir : Place} {spot : Spot}
  {path name : String} {steps : List String} {slash : Bool}

theorem get?_nil : d.get? [] = some .directory := rfl

theorem get?_empty {p : Place} (hp : p ≠ []) : empty.get? p = none := by
  rw [get?, if_neg hp]
  rfl

theorem mem_suffixDigits {count n : Nat} {c : Char} (h : c ∈ suffixDigits count n) :
    c ∈ suffixAlphabet := by
  induction count generalizing n with
  | zero => exact absurd h List.not_mem_nil
  | succ count ih =>
    rw [suffixDigits, List.mem_append, List.mem_singleton] at h
    rcases h with h | rfl
    · exact ih h
    · have hlt : n % 62 < suffixAlphabet.length := Nat.mod_lt n (by decide)
      rw [List.getElem?_eq_getElem hlt]
      exact List.getElem_mem hlt

theorem wellFormed_empty : empty.WellFormed where
  above h := by
    rw [get?_empty (by simp)] at h
    cases h
  named h := by
    rw [get?_empty (by simp)] at h
    cases h
  numbered {p id} h := by
    by_cases hp : p = []
    · rw [hp] at h
      cases h
    · rw [get?_empty hp] at h
      cases h
  lost_le := Nat.le_refl 0
  live := get?_nil
  suffixes n c hc := mem_suffixDigits (by simpa [empty, suffix] using hc)

theorem directory_start (h : d.get? here = some .directory) :
    d.get? (start here path) = some .directory := by
  rw [start]
  split
  · exact get?_nil
  · exact h

namespace WellFormed

theorem directory_dropLast {e : Entry} (hd : d.WellFormed) (h : d.get? here = some e) :
    d.get? here.dropLast = some .directory := by
  rcases List.eq_nil_or_concat' here with rfl | ⟨init, last, rfl⟩
  · exact get?_nil
  · rw [List.dropLast_concat]
    exact hd.above h

theorem directory_of_passes (hd : d.WellFormed) (h : d.Passes links here steps left dir)
    (hh : d.get? here = some .directory) : d.get? dir = some .directory := by
  induction h with
  | nil => exact hh
  | dot _ ih => exact ih hh
  | up _ ih => exact ih (hd.directory_dropLast hh)
  | enter _ he _ ih => exact ih he
  | follow _ _ _ ih => exact ih (directory_start hh)

theorem directory_of_passesFrom (hd : d.WellFormed) (h : d.PassesFrom lost here steps left spot)
    (hl : lost ≤ here.length) (hh : d.get? (here.take (here.length - lost)) = some .directory) :
    d.entryAt? spot = some .directory := by
  induction h with
  | tree h =>
    rw [Nat.sub_zero, List.take_length] at hh
    exact hd.directory_of_passes h hh
  | stay => rfl
  | dot _ ih => exact ih hl hh
  | @up lost _ here _ _ _ ih =>
    have hlen : here.dropLast.length = here.length - 1 := List.length_dropLast
    refine ih (by omega) ?_
    rw [hlen, List.dropLast_eq_take, List.take_take]
    rwa [show min (here.length - 1 - lost) (here.length - 1) = here.length - (lost + 1) by omega]

end WellFormed

/-! ## The steps of a path -/

/-- **The steps of a path lead to a spot**, from where the path begins. -/
def Leads (d : Disk) (path : String) (steps : List String) (left : Nat) (spot : Spot) : Prop :=
  d.PassesFrom (if Path.isAbsolute path then 0 else d.lost) (start d.workingDir path) steps left
    spot

theorem Leads.walkPath_append {missing : Bool} (h : d.Leads path steps left (.place dir))
    (rest : List String) :
    d.walkPath missing path (steps ++ rest) = (d.walk missing left dir rest).map .place :=
  h.walkFrom_append rest

theorem WellFormed.directory_of_leads (hd : d.WellFormed) (h : d.Leads path steps left spot) :
    d.entryAt? spot = some .directory := by
  rw [Leads, start] at h
  split at h
  · exact hd.directory_of_passesFrom h (Nat.zero_le _) get?_nil
  · exact hd.directory_of_passesFrom h hd.lost_le hd.live

theorem passesFrom_append_dots_iff {dots : List String} (hdots : Path.Dots dots) :
    d.PassesFrom lost here (steps ++ dots) left spot ↔ d.PassesFrom lost here steps left spot := by
  constructor
  · intro h
    generalize hall : steps ++ dots = all at h
    induction h generalizing steps dots with
    | tree h =>
      subst hall
      obtain ⟨mid, dir, h, h'⟩ := passes_append_iff.1 h
      obtain ⟨rfl, rfl⟩ := (passes_dots_iff hdots).1 h'
      exact .tree h
    | stay =>
      obtain ⟨rfl, -⟩ := List.append_eq_nil_iff.1 hall
      exact .stay
    | dot h ih =>
      rcases List.append_eq_cons_iff.1 hall with ⟨rfl, rfl⟩ | ⟨steps, rfl, rfl⟩
      · exact ih (fun s hs => hdots s (List.mem_cons_of_mem _ hs)) (List.nil_append _)
      · exact .dot (ih hdots rfl)
    | up h ih =>
      rcases List.append_eq_cons_iff.1 hall with ⟨rfl, rfl⟩ | ⟨steps, rfl, rfl⟩
      · exact absurd (hdots ".." List.mem_cons_self) (by decide)
      · exact .up (ih hdots rfl)
  · intro h
    induction h with
    | tree h => exact .tree (h.append ((passes_dots_iff hdots).2 ⟨rfl, rfl⟩))
    | stay =>
      induction dots with
      | nil => exact .stay
      | cons dot dots ih =>
        obtain rfl := hdots dot List.mem_cons_self
        exact .dot (ih fun s hs => hdots s (List.mem_cons_of_mem _ hs))
    | dot _ ih => exact .dot ih
    | up _ ih => exact .up ih

theorem leads_append_dots_iff {dots : List String} (hdots : Path.Dots dots) :
    d.Leads path (steps ++ dots) left spot ↔ d.Leads path steps left spot :=
  passesFrom_append_dots_iff hdots

theorem leads_steps_iff :
    d.Leads path (Path.steps path) left spot ↔ d.Leads path (Path.parts path) left spot := by
  rw [Path.steps]
  split
  · exact leads_append_dots_iff fun s hs => List.mem_singleton.1 hs
  · rfl

theorem leads_of_walkPath {missing : Bool}
    (h : d.walkPath missing path (steps ++ ["."]) = .ok spot) :
    ∃ left, d.Leads path steps left spot :=
  passesFrom_of_walkFrom h

/-- **A walk to something that is there** ends where its steps lead to, or at a file. -/
theorem leads_or_file (h : d.walkPath false path steps = .ok spot) :
    (∃ left, d.Leads path steps left spot) ∨ ∃ p id, spot = .place p ∧ d.get? p = some (.file id) :=
  passesFrom_or_file h

theorem Leads.append {mid : Nat} {dir' : Place} (h : d.Leads path steps mid (.place dir))
    {rest : List String} (h' : d.Passes mid dir rest left dir') :
    d.Leads path (steps ++ rest) left (.place dir') :=
  PassesFrom.append h h'

/-- **What follows the steps to a place** passes on from there. -/
theorem Leads.of_append {mid : Nat} {rest : List String} (h : d.Leads path steps mid (.place dir))
    (h' : d.Leads path (steps ++ rest) left spot) :
    ∃ left' dir', spot = .place dir' ∧ d.Passes mid dir rest left' dir' := by
  have hw : d.walkPath false path (steps ++ (rest ++ ["."])) = .ok spot := by
    rw [← List.append_assoc]
    exact (leads_append_dots_iff fun s hs => List.mem_singleton.1 hs).2 h' |>.walkFrom_eq
  rw [h.walkPath_append] at hw
  cases hr : d.walk false mid dir (rest ++ ["."]) with
  | error e =>
    rw [hr] at hw
    cases hw
  | ok dir' =>
    rw [hr] at hw
    obtain ⟨left', hp⟩ := passes_of_walk hr
    exact ⟨left', dir', (Except.ok.inj hw).symm, hp⟩

theorem Leads.unique {mid : Nat} {dir' : Place} (h : d.Leads path steps left (.place dir))
    (h' : d.Leads path steps mid (.place dir')) : dir = dir' := by
  rw [← List.append_nil steps] at h'
  obtain ⟨_, _, hs, hp⟩ := h.of_append h'
  cases hp
  exact (Spot.place.inj hs).symm

theorem leads_congr {path' : String} (h : Path.isAbsolute path' = Path.isAbsolute path) :
    d.Leads path' steps left spot ↔ d.Leads path steps left spot := by
  rw [Leads, Leads, start, start, h]

/-! ## Paths to directories -/

theorem Leads.resolve_eq (h : d.Leads path (Path.parts path) left spot)
    (hc : check path = .ok ()) : d.resolve path = .ok spot := by
  rw [resolve, hc]
  exact (leads_steps_iff.2 h).walkFrom_eq

/-- **A path leads to a directory** if its parts do. -/
theorem isDir_iff (hd : d.WellFormed) :
    d.isDir path = true ↔
      check path = .ok () ∧ ∃ left spot, d.Leads path (Path.parts path) left spot := by
  rw [isDir]
  constructor
  · intro h
    rw [resolve] at h
    cases hc : check path with
    | error e => simp [hc] at h
    | ok u =>
      simp only [hc] at h
      refine ⟨rfl, ?_⟩
      cases hw : d.walkPath false path (Path.steps path) with
      | error e => simp [hw] at h
      | ok spot =>
        simp only [hw, beq_iff_eq] at h
        rcases leads_or_file hw with ⟨left, hl⟩ | ⟨p, id, rfl, hf⟩
        · exact ⟨left, spot, leads_steps_iff.1 hl⟩
        · rw [entryAt?, hf] at h
          cases h
  · rintro ⟨hc, left, spot, hl⟩
    simp [hl.resolve_eq hc, hd.directory_of_leads hl]

/-! ## Paths that name entries -/

/-- **A path names an entry** if the parts before its last one lead to a directory. -/
theorem locate_eq_entry_iff :
    d.locate path = .ok (.entry dir name slash) ↔
      check path = .ok () ∧ name ≠ "." ∧ name ≠ ".." ∧ slash = Path.endsInSlash path ∧
        ∃ init left, Path.parts path = init ++ [name] ∧ d.Leads path init left (.place dir) := by
  constructor
  · intro h
    rw [locate] at h
    cases hc : check path with
    | error e => simp [hc] at h
    | ok u =>
      simp only [hc] at h
      cases hw : d.walkPath false path ((Path.parts path).dropLast ++ ["."]) with
      | error e => simp [hw] at h
      | ok spot =>
        simp only [hw] at h
        split at h
        · cases h
        · rename_i last hlast
          split at h
          · cases h
          · rename_i hne
            rw [not_or] at hne
            split at h
            · simp only [Except.ok.injEq, Target.entry.injEq] at h
              obtain ⟨rfl, rfl, rfl⟩ := h
              obtain ⟨left, hl⟩ := leads_of_walkPath hw
              exact ⟨rfl, hne.1, hne.2, rfl, _, left,
                (List.dropLast_append_getLast? _ hlast).symm, hl⟩
            · cases h
  · rintro ⟨hc, hdot, hup, rfl, init, left, hp, hl⟩
    have hw : d.walkPath false path (init ++ ["."]) = .ok (.place dir) := by
      rw [hl.walkPath_append, walk_dot, walk_nil]
      rfl
    simp [locate, hc, hp, hw, hdot, hup]

theorem name_of_locate (h : d.locate path = .ok (.entry dir name slash)) :
    Path.name path = name := by
  obtain ⟨-, -, -, -, init, left, hinit, -⟩ := locate_eq_entry_iff.1 h
  simp [Path.name, hinit]

/-- **The parent of a path** that names an entry leads to the directory of the entry. -/
theorem leads_parent? {par : String} (hpar : Path.parent? path = some par)
    (h : d.locate path = .ok (.entry dir name slash)) :
    ∃ left, d.Leads par (Path.parts par) left (.place dir) := by
  obtain ⟨-, hdot, -, -, init, left, hinit, hl⟩ := locate_eq_entry_iff.1 h
  obtain ⟨dots, last, rest, hparts, hdots, hrest, -⟩ := Path.parts_of_parent? hpar
  rw [Path.init_eq (hparts.symm.trans hinit) hrest hdot] at hl
  exact ⟨left, (leads_congr (Path.isAbsolute_of_parent? hpar)).2
    ((leads_append_dots_iff hdots).1 hl)⟩

theorem WellFormed.of_locate (hd : d.WellFormed) (h : d.locate path = .ok (.entry dir name slash)) :
    d.get? dir = some .directory ∧ IsEntryName name := by
  obtain ⟨-, hdot, hup, -, init, left, hp, hl⟩ := locate_eq_entry_iff.1 h
  have hm : name ∈ Path.parts path := by simp [hp]
  exact ⟨hd.directory_of_leads hl, (Path.mem_parts hm).1, (Path.mem_parts hm).2, hdot, hup⟩

end Replica.Disk
