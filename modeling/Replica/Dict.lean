/-!
# Sorted dictionaries

A dictionary is a list of names with values, the names strictly increasing. Names are compared
character by character, which is also the order of their UTF-8 octets.

* `Dict.insert`, `Dict.ofList`: a later value for a name replaces the earlier one;
* `Dict.ofList_entries`: the entries of a dictionary give the dictionary again;
* **`Dict.get?_insert`**: what an insertion changes;
* **`Dict.ext_get?`**: a dictionary is determined by its look-ups, so equality is meaningful.
-/

namespace Replica

/-- A finite map from names to values, its entries sorted by name. -/
structure Dict (α : Type) where
  entries : List (String × α)
  sorted : entries.Pairwise fun a b => a.1 < b.1

namespace Dict

variable {α : Type}

instance [DecidableEq α] : DecidableEq (Dict α) := fun a b =>
  if h : a.entries = b.entries then
    isTrue (by cases a; cases b; cases h; rfl)
  else
    isFalse fun e => h (e ▸ rfl)

/-- The dictionary without entries. -/
def empty : Dict α := ⟨[], .nil⟩

instance : Inhabited (Dict α) := ⟨empty⟩

/-- The first value stored under a name in a list of entries. -/
def lookup (name : String) : List (String × α) → Option α
  | [] => none
  | e :: rest => if name = e.1 then some e.2 else lookup name rest

/-- The value stored under a name. -/
def get? (d : Dict α) (name : String) : Option α := lookup name d.entries

/-- No name has a value. -/
def isEmpty (d : Dict α) : Bool := d.entries.isEmpty

/-- The number of names with a value. -/
def size (d : Dict α) : Nat := d.entries.length

/-! ## Insertion -/

/-- Put an entry in its place, over an entry of the same name. -/
def insertEntry (name : String) (value : α) : List (String × α) → List (String × α)
  | [] => [(name, value)]
  | e :: rest =>
    if name < e.1 then (name, value) :: e :: rest
    else if name = e.1 then (name, value) :: rest
    else e :: insertEntry name value rest

theorem lt_of_not_lt_of_ne {a b : String} (h : ¬ a < b) (hne : a ≠ b) : b < a :=
  Classical.byContradiction fun hba =>
    hne (String.le_antisymm (String.not_lt.1 hba) (String.not_lt.1 h))

theorem mem_insertEntry {name : String} {value : α} {l : List (String × α)} {e : String × α}
    (h : e ∈ insertEntry name value l) : e = (name, value) ∨ e ∈ l := by
  induction l with
  | nil => simpa [insertEntry] using h
  | cons a l ih =>
    rw [insertEntry] at h
    split at h
    · simpa using h
    · split at h
      · rcases List.mem_cons.1 h with h | h
        · exact .inl h
        · exact .inr (List.mem_cons_of_mem _ h)
      · rcases List.mem_cons.1 h with h | h
        · exact .inr (h ▸ List.mem_cons_self)
        · exact (ih h).imp_right (List.mem_cons_of_mem _)

theorem sorted_insertEntry (name : String) (value : α) {l : List (String × α)}
    (h : l.Pairwise fun a b => a.1 < b.1) :
    (insertEntry name value l).Pairwise fun a b => a.1 < b.1 := by
  induction l with
  | nil => simp [insertEntry]
  | cons a l ih =>
    have ha := List.pairwise_cons.1 h
    rw [insertEntry]
    split
    · rename_i hlt
      refine List.pairwise_cons.2 ⟨fun b hb => ?_, h⟩
      rcases List.mem_cons.1 hb with rfl | hb
      · exact hlt
      · exact String.lt_trans hlt (ha.1 b hb)
    · split
      · rename_i heq
        exact List.pairwise_cons.2 ⟨fun b hb => heq ▸ ha.1 b hb, ha.2⟩
      · rename_i hlt hne
        refine List.pairwise_cons.2 ⟨fun b hb => ?_, ih ha.2⟩
        rcases mem_insertEntry hb with rfl | hb
        · exact lt_of_not_lt_of_ne hlt hne
        · exact ha.1 b hb

/-- The dictionary with `value` under `name`, and otherwise as before. -/
def insert (d : Dict α) (name : String) (value : α) : Dict α :=
  ⟨insertEntry name value d.entries, sorted_insertEntry name value d.sorted⟩

/-- The dictionary of a list of entries; of two values for a name the later one counts. -/
def ofList (l : List (String × α)) : Dict α := l.foldl (fun d e => d.insert e.1 e.2) empty

theorem insertEntry_of_forall_lt {name : String} {l : List (String × α)}
    (h : ∀ e ∈ l, e.1 < name) (value : α) : insertEntry name value l = l ++ [(name, value)] := by
  induction l with
  | nil => rfl
  | cons a l ih =>
    have ha := h a List.mem_cons_self
    have hlt : ¬ name < a.1 := fun hlt => String.lt_irrefl _ (String.lt_trans ha hlt)
    have hne : name ≠ a.1 := fun e => String.lt_irrefl name (e ▸ ha)
    rw [insertEntry, if_neg hlt, if_neg hne, ih fun e he => h e (List.mem_cons_of_mem _ he),
      List.cons_append]

theorem entries_foldl_insert (d : Dict α) {l : List (String × α)}
    (h : (d.entries ++ l).Pairwise fun a b => a.1 < b.1) :
    (l.foldl (fun d e => d.insert e.1 e.2) d).entries = d.entries ++ l := by
  induction l generalizing d with
  | nil => simp
  | cons a l ih =>
    have hlt : ∀ e ∈ d.entries, e.1 < a.1 := fun e he =>
      (List.pairwise_append.1 h).2.2 e he a List.mem_cons_self
    have hinsert : (d.insert a.1 a.2).entries = d.entries ++ [a] := insertEntry_of_forall_lt hlt a.2
    have happend : d.entries ++ a :: l = d.entries ++ [a] ++ l := by simp
    rw [happend, ← hinsert] at h ⊢
    exact ih (d.insert a.1 a.2) h

theorem ext_entries {d e : Dict α} (h : d.entries = e.entries) : d = e := by
  cases d
  cases e
  cases h
  rfl

theorem ofList_entries (d : Dict α) : ofList d.entries = d :=
  ext_entries (entries_foldl_insert empty d.sorted)

/-! ## Look-ups -/

theorem lookup_eq_none_of_lt {name : String} {l : List (String × α)}
    (h : ∀ e ∈ l, name < e.1) : lookup name l = none := by
  induction l with
  | nil => rfl
  | cons a l ih =>
    have hne : name ≠ a.1 := fun e => String.lt_irrefl name (by
      have := h a List.mem_cons_self
      rwa [← e] at this)
    rw [lookup, if_neg hne]
    exact ih fun e he => h e (List.mem_cons_of_mem _ he)

theorem lookup_insertEntry (name other : String) (value : α) (l : List (String × α)) :
    lookup other (insertEntry name value l) =
      if other = name then some value else lookup other l := by
  induction l with
  | nil => rfl
  | cons a l ih =>
    rw [insertEntry]
    split
    · rfl
    · split
      · rename_i heq
        subst heq
        by_cases h : other = a.1 <;> simp [lookup, h]
      · rename_i hne
        by_cases ha : other = a.1
        · subst ha
          simp [lookup, Ne.symm hne]
        · simp [lookup, ha, ih]

/-- **A look-up after an insertion.** -/
theorem get?_insert (d : Dict α) (name other : String) (value : α) :
    (d.insert name value).get? other = if other = name then some value else d.get? other :=
  lookup_insertEntry name other value d.entries

theorem get?_empty (name : String) : (empty : Dict α).get? name = none := rfl

theorem isEmpty_insert (d : Dict α) (name : String) (value : α) :
    (d.insert name value).isEmpty = false := by
  show (insertEntry name value d.entries).isEmpty = false
  cases d.entries with
  | nil => rfl
  | cons a l =>
    rw [insertEntry]
    split
    · rfl
    · split <;> rfl

theorem entries_eq_of_lookup {l m : List (String × α)}
    (hl : l.Pairwise fun a b => a.1 < b.1) (hm : m.Pairwise fun a b => a.1 < b.1)
    (h : ∀ name, lookup name l = lookup name m) : l = m := by
  induction l generalizing m with
  | nil =>
    cases m with
    | nil => rfl
    | cons b m => simpa [lookup] using h b.1
  | cons a l ih =>
    cases m with
    | nil => simpa [lookup] using h a.1
    | cons b m =>
      have ha := List.pairwise_cons.1 hl
      have hb := List.pairwise_cons.1 hm
      have hkey : a.1 = b.1 := by
        refine Classical.byContradiction fun hne => ?_
        by_cases hlt : a.1 < b.1
        · have := h a.1
          rw [lookup, lookup, if_pos rfl, if_neg hne,
            lookup_eq_none_of_lt fun e he => String.lt_trans hlt (hb.1 e he)] at this
          cases this
        · have hlt := lt_of_not_lt_of_ne hlt hne
          have := h b.1
          rw [lookup, lookup, if_neg (Ne.symm hne), if_pos rfl,
            lookup_eq_none_of_lt fun e he => String.lt_trans hlt (ha.1 e he)] at this
          cases this
      have hval : a.2 = b.2 := by
        have := h a.1
        rw [lookup, lookup, if_pos rfl, if_pos hkey] at this
        exact Option.some.inj this
      have htail : ∀ name, lookup name l = lookup name m := fun name => by
        by_cases hn : name = a.1
        · subst hn
          rw [lookup_eq_none_of_lt ha.1, lookup_eq_none_of_lt fun e he => hkey ▸ hb.1 e he]
        · have := h name
          rwa [lookup, lookup, if_neg hn, if_neg fun e => hn (e.trans hkey.symm)] at this
      rw [ih ha.2 hb.2 htail, Prod.ext hkey hval]

/-- **A dictionary is determined by its look-ups.** -/
theorem ext_get? {d e : Dict α} (h : ∀ name, d.get? name = e.get? name) : d = e := by
  have := entries_eq_of_lookup d.sorted e.sorted h
  cases d; cases e; cases this; rfl

end Dict

end Replica
