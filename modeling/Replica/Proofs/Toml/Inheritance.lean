import Replica.Proofs.Fallible
import Replica.Proofs.Toml.Scalars
import Replica.Proofs.Toml.Tables

/-!
# What holds of every value of a document

A property that holds of the values without parts, and that arrays and tables have from their parts,
holds of every value that is read. No table has a key twice.

* `Inherited`: such a property;
* `Node.Holds`, `Entries.Holds`: it holds in a part of a document that is being read;
* `update_holds`, `apply_holds`: what a line adds to the tables;
* `readsOnly_value`: the values that are read;
* **`Inherited.of_read`**: the entries of a document;
* `inRange_of_read`, `nodup_of_read`: their integers, and their keys.
-/

namespace Replica.Toml

/-- A property of values that arrays and tables have from their parts. -/
structure Inherited (P : Value → Prop) : Prop where
  scalar : ∀ v : Value, v.IsScalar → P v
  array : ∀ (ofTables : Bool) (items : List Value), (∀ v ∈ items, P v) → P (.array ofTables items)
  table : ∀ entries : List (String × Value),
    (entries.map Prod.fst).Nodup → (∀ e ∈ entries, P e.2) → P (.table entries)

variable {P : Value → Prop}

/-! ## Tables that are being read -/

/-- The property holds of all values in a part of a document, and no table has a key twice. -/
inductive Node.Holds (P : Value → Prop) : Node → Prop
  | value {v : Value} (h : P v) : Holds P (.value v)
  | table (origin : Origin) {entries : List (String × Node)}
      (hkeys : (entries.map Prod.fst).Nodup) (h : ∀ e ∈ entries, Holds P e.2) :
      Holds P (.table origin entries)
  | tables {last : List (String × Node)} {earlier : List (List (String × Node))}
      (hlastKeys : (last.map Prod.fst).Nodup) (hlast : ∀ e ∈ last, Holds P e.2)
      (hearlierKeys : ∀ es ∈ earlier, (es.map Prod.fst).Nodup)
      (hearlier : ∀ es ∈ earlier, ∀ e ∈ es, Holds P e.2) : Holds P (.tables last earlier)

/-- The property holds of all values in the entries of a table, and it has no key twice. -/
structure Entries.Holds (P : Value → Prop) (entries : Entries) : Prop where
  keys : (entries.map Prod.fst).Nodup
  nodes : ∀ e ∈ entries, e.2.Holds P

namespace Entries

variable {key : String} {node : Node} {entries : Entries}

theorem holds_nil : Holds P [] where
  keys := List.nodup_nil
  nodes := by
    intro e he
    cases he

theorem Holds.find? (h : entries.Holds P) (hf : find? key entries = some node) : node.Holds P := by
  obtain ⟨_, hnodes⟩ := h
  induction entries with
  | nil => cases hf
  | cons e entries ih =>
    rw [Entries.find?] at hf
    split at hf
    · cases hf
      exact hnodes e List.mem_cons_self
    · exact ih hf (List.nodup_cons.1 ‹_›).2 fun e' he => hnodes e' (List.mem_cons_of_mem _ he)

theorem notMem_of_find?_eq_none (h : find? key entries = none) : key ∉ entries.map Prod.fst := by
  induction entries with
  | nil => exact List.not_mem_nil
  | cons e entries ih =>
    rw [Entries.find?] at h
    split at h
    · cases h
    · rw [List.map_cons, List.mem_cons, not_or]
      exact ⟨Ne.symm ‹_›, ih h⟩

theorem Holds.add (h : entries.Holds P) (hkey : key ∉ entries.map Prod.fst) (hn : node.Holds P) :
    (add key node entries).Holds P where
  keys := by
    rw [Entries.add, List.map_append, List.map_singleton]
    refine List.nodup_append.2 ⟨h.keys, List.pairwise_singleton _ key, ?_⟩
    rintro a ha b hb rfl
    rw [List.mem_singleton.1 hb] at ha
    exact hkey ha
  nodes := by
    intro e he
    rcases List.mem_append.1 he with he | he
    · exact h.nodes e he
    · cases List.mem_singleton.1 he
      exact hn

theorem Holds.replace (h : entries.Holds P) (hn : node.Holds P) :
    (replace key node entries).Holds P where
  keys := by
    have hsame : ∀ e : String × Node, (if e.1 = key then (key, node) else e).1 = e.1 := by
      intro e
      split
      · exact Eq.symm ‹_›
      · rfl
    have hkeys : (Entries.replace key node entries).map Prod.fst = entries.map Prod.fst := by
      rw [Entries.replace, List.map_map]
      exact List.map_congr_left fun e _ => hsame e
    exact hkeys ▸ h.keys
  nodes := by
    intro e he
    obtain ⟨d, hd, rfl⟩ := List.mem_map.1 he
    split
    · exact hn
    · exact h.nodes d hd

theorem Holds.remove (h : entries.Holds P) : (remove key entries).Holds P where
  keys := h.keys.sublist (List.filter_sublist.map Prod.fst)
  nodes := fun e he => h.nodes e (List.mem_filter.1 he).1

theorem notMem_remove : key ∉ (remove key entries).map Prod.fst := by
  intro h
  obtain ⟨e, he, hkey⟩ := List.mem_map.1 h
  exact of_decide_eq_true (List.mem_filter.1 he).2 hkey

end Entries

/-- **A change at the end of a path** keeps the property if the change does. -/
theorem update_holds {dotted : Bool} {change : Origin → Entries → Option Entries}
    (hchange : ∀ origin es es', es.Holds P → change origin es = some es' → es'.Holds P)
    {path : List String} {origin : Origin} {entries result : Entries} (h : entries.Holds P)
    (hu : update dotted change path origin entries = some result) : result.Holds P := by
  induction path generalizing origin entries result with
  | nil => exact hchange origin entries result h hu
  | cons key path ih =>
    rw [update] at hu
    split at hu
    case h_1 hf =>
      obtain ⟨inner, hinner, hres⟩ := Option.bind_eq_some_iff.1 hu
      cases hres
      have hin := ih Entries.holds_nil hinner
      exact h.add (Entries.notMem_of_find?_eq_none hf) (.table _ hin.keys hin.nodes)
    case h_2 => cases hu
    case h_3 origin' inner hf =>
      split at hu
      · cases hu
      · obtain ⟨inner', hinner, hres⟩ := Option.bind_eq_some_iff.1 hu
        cases hres
        cases h.find? hf with
        | table _ hkeys hnodes =>
          have hin := ih ⟨hkeys, hnodes⟩ hinner
          exact h.replace (.table _ hin.keys hin.nodes)
    case h_4 last earlier hf =>
      -- the elements before the last stay as they are
      obtain ⟨last', hlast', hres⟩ := Option.bind_eq_some_iff.1 hu
      cases hres
      cases h.find? hf with
      | tables hkeys hlast hearlierKeys hearlier =>
        have hin := ih ⟨hkeys, hlast⟩ hlast'
        exact h.replace (.tables hin.keys hin.nodes hearlierKeys hearlier)

theorem assign_holds {path : List String} {key : String} {v : Value} {origin : Origin}
    {entries result : Entries} (hv : P v) (h : entries.Holds P)
    (ha : assign path key v origin entries = some result) : result.Holds P := by
  refine update_holds (fun _ es es' hes hc => ?_) h ha
  split at hc
  · cases hc
  · split at hc
    · cases hc
    · rename_i hf
      cases hc
      have hnone : Entries.find? key es = none := Option.not_isSome_iff_eq_none.1 hf
      exact hes.add (Entries.notMem_of_find?_eq_none hnone) (.value hv)

theorem header_holds {path : List String} {key : String} {origin : Origin}
    {entries result : Entries} (h : entries.Holds P)
    (hh : header path key origin entries = some result) : result.Holds P := by
  refine update_holds (fun _ es es' hes hc => ?_) h hh
  split at hc
  case h_1 hf =>
    cases hc
    have hnil := Entries.holds_nil (P := P)
    exact hes.add (Entries.notMem_of_find?_eq_none hf) (.table _ hnil.keys hnil.nodes)
  case h_2 inner hf =>
    cases hc
    cases hes.find? hf with
    | table _ hkeys hnodes => exact hes.remove.add Entries.notMem_remove (.table _ hkeys hnodes)
  case h_3 => cases hc

theorem arrayHeader_holds {path : List String} {key : String} {origin : Origin}
    {entries result : Entries} (h : entries.Holds P)
    (hh : arrayHeader path key origin entries = some result) : result.Holds P := by
  have hnil := Entries.holds_nil (P := P)
  refine update_holds (fun _ es es' hes hc => ?_) h hh
  split at hc
  case h_1 hf =>
    cases hc
    refine hes.add (Entries.notMem_of_find?_eq_none hf) (.tables hnil.keys hnil.nodes ?_ ?_)
    · exact List.forall_mem_nil _
    · exact List.forall_mem_nil _
  case h_2 last earlier hf =>
    cases hc
    cases hes.find? hf with
    | tables hkeys hlast hearlierKeys hearlier =>
      exact hes.replace (.tables hnil.keys hnil.nodes (List.forall_mem_cons.2 ⟨hkeys, hearlierKeys⟩)
        (List.forall_mem_cons.2 ⟨hlast, hearlier⟩))
  case h_3 => cases hc

/-! ## Tables that have been read -/

theorem elementsToValues_eq_map (elements : List Entries) :
    elementsToValues elements = elements.map fun es => .table (entriesToValues es) := by
  induction elements with
  | nil => rfl
  | cons es elements ih => rw [elementsToValues, ih, List.map_cons]

theorem map_fst_entriesToValues (entries : Entries) :
    (entriesToValues entries).map Prod.fst = entries.map Prod.fst := by
  rw [entriesToValues_eq_map, List.map_map]
  rfl

section

variable (hP : Inherited P)

include hP

theorem table_of_nodes {entries : Entries} (hkeys : (entries.map Prod.fst).Nodup)
    (h : ∀ e ∈ entries, P e.2.toValue) : P (.table (entriesToValues entries)) := by
  refine hP.table _ ((map_fst_entriesToValues entries).symm ▸ hkeys) fun e he => ?_
  rw [entriesToValues_eq_map] at he
  obtain ⟨d, hd, rfl⟩ := List.mem_map.1 he
  exact h d hd

theorem Node.Holds.toValue {node : Node} (h : node.Holds P) : P node.toValue := by
  induction h with
  | value h => exact h
  | table origin hkeys _ ih =>
    rw [Node.toValue]
    exact table_of_nodes hP hkeys ih
  | tables hlastKeys _ hearlierKeys _ ihlast ihearlier =>
    rw [Node.toValue, elementsToValues_eq_map]
    refine hP.array _ _ fun v hv => ?_
    rcases List.mem_cons.1 (List.mem_reverse.1 hv) with rfl | hv
    · exact table_of_nodes hP hlastKeys ihlast
    · obtain ⟨es, hes, rfl⟩ := List.mem_map.1 hv
      exact table_of_nodes hP (hearlierKeys es hes) (ihearlier es hes)

theorem Entries.Holds.toValues {entries : Entries} (h : entries.Holds P) :
    ((entriesToValues entries).map Prod.fst).Nodup ∧ ∀ e ∈ entriesToValues entries, P e.2 := by
  refine ⟨(map_fst_entriesToValues entries).symm ▸ h.keys, fun e he => ?_⟩
  rw [entriesToValues_eq_map] at he
  obtain ⟨d, hd, rfl⟩ := List.mem_map.1 he
  exact (h.nodes d hd).toValue hP

end

/-! ## Values -/

/-- A parser reads only values with the property. -/
def ReadsOnly (P : Value → Prop) (item : Parser Value) : Prop :=
  ∀ s v rest, item s = some (v, rest) → P v

section

variable {item : Parser Value}

theorem ReadsOnly.arrayItems (hitem : ReadsOnly P item) {fuel : Nat} {s rest : List Char}
    {vs : List Value} (h : arrayItems item fuel s = some (vs, rest)) : ∀ v ∈ vs, P v := by
  induction fuel generalizing s vs rest with
  | zero => cases h
  | succ fuel ih =>
    rw [Toml.arrayItems] at h
    split at h
    · cases h
      intro v hv
      cases hv
    · obtain ⟨⟨v, s'⟩, hv, h⟩ := Option.bind_eq_some_iff.1 h
      have hvr := hitem _ _ _ hv
      dsimp only at h
      split at h
      · obtain ⟨⟨vs', s''⟩, hvs, h⟩ := Option.bind_eq_some_iff.1 h
        cases h
        exact List.forall_mem_cons.2 ⟨hvr, ih hvs⟩
      · cases h
        exact List.forall_mem_singleton.2 hvr
      · cases h

theorem ReadsOnly.assignmentOf (hitem : ReadsOnly P item) {s rest : List Char}
    {a : List String × String × Value} (h : assignmentOf item s = some (a, rest)) : P a.2.2 := by
  obtain ⟨_, _, h⟩ := Option.bind_eq_some_iff.1 h
  obtain ⟨_, _, h⟩ := Option.bind_eq_some_iff.1 h
  obtain ⟨⟨v, s'⟩, hv, h⟩ := Option.bind_eq_some_iff.1 h
  cases h
  exact hitem _ _ _ hv

theorem ReadsOnly.inlineItems (hitem : ReadsOnly P item) {fuel : Nat} {s rest : List Char}
    {as : List (List String × String × Value)} (h : inlineItems item fuel s = some (as, rest)) :
    ∀ a ∈ as, P a.2.2 := by
  induction fuel generalizing s as rest with
  | zero => cases h
  | succ fuel ih =>
    obtain ⟨⟨a, s'⟩, ha, h⟩ := Option.bind_eq_some_iff.1 h
    have har := hitem.assignmentOf ha
    dsimp only at h
    split at h
    · obtain ⟨⟨as', s''⟩, has, h⟩ := Option.bind_eq_some_iff.1 h
      cases h
      exact List.forall_mem_cons.2 ⟨har, ih has⟩
    · cases h
      exact List.forall_mem_singleton.2 har
    · cases h

end

section

variable (hP : Inherited P)

include hP

theorem inlineTable_holds {as : List (List String × String × Value)} {v : Value}
    (has : ∀ a ∈ as, P a.2.2) (h : inlineTable as = some v) : P v := by
  obtain ⟨entries, hentries, h⟩ := Option.bind_eq_some_iff.1 h
  cases h
  have hin : Entries.Holds P entries :=
    keeps_foldlM_some (fun _ a ha _ hes => assign_holds (has a ha) hes) Entries.holds_nil hentries
  obtain ⟨hkeys, hvalues⟩ := hin.toValues hP
  exact hP.table _ hkeys hvalues

theorem inlineBody_holds {item : Parser Value} (hitem : ReadsOnly P item) {room : Nat}
    {s rest : List Char} {v : Value} (h : inlineBody item room s = some (v, rest)) : P v := by
  unfold inlineBody at h
  split at h
  · cases h
    exact hP.table [] List.nodup_nil (List.forall_mem_nil _)
  · obtain ⟨⟨as, s'⟩, has, h⟩ := Option.bind_eq_some_iff.1 h
    obtain ⟨w, hw, h⟩ := Option.bind_eq_some_iff.1 h
    cases h
    exact inlineTable_holds hP (hitem.inlineItems has) hw

/-- **The values that are read** have the property. -/
theorem readsOnly_value (room depth : Nat) : ReadsOnly P (value room depth) := by
  induction depth with
  | zero =>
    intro s v rest h
    unfold value at h
    split at h
    · cases h
    · cases h
    · exact hP.scalar _ (isScalar_of_scalar h)
  | succ depth ih =>
    intro s v rest h
    unfold value at h
    split at h
    · obtain ⟨r, hr, h⟩ := Option.map_eq_some_iff.1 h
      cases h
      exact hP.array _ _ (ih.arrayItems hr)
    · exact inlineBody_holds hP ih h
    · exact hP.scalar _ (isScalar_of_scalar h)

end

/-! ## Documents -/

/-- The property holds of the value in a line. -/
def Line.Holds (P : Value → Prop) : Line → Prop
  | assignment _ _ v => P v
  | header _ _ => True
  | arrayHeader _ _ => True

theorem headerLine_holds {s rest : List Char} {l : Line} (h : headerLine s = some (l, rest)) :
    l.Holds P := by
  unfold headerLine at h
  split at h
  · obtain ⟨_, _, h⟩ := Option.bind_eq_some_iff.1 h
    obtain ⟨_, _, h⟩ := Option.bind_eq_some_iff.1 h
    obtain ⟨_, _, h⟩ := Option.bind_eq_some_iff.1 h
    cases h
    trivial
  · obtain ⟨_, _, h⟩ := Option.bind_eq_some_iff.1 h
    obtain ⟨_, _, h⟩ := Option.bind_eq_some_iff.1 h
    cases h
    trivial

theorem statement_holds (hP : Inherited P) {room : Nat} {s rest : List Char} {l : Line}
    (h : statement room s = some (some l, rest)) : l.Holds P := by
  unfold statement at h
  split at h
  case h_1 | h_2 | h_3 | h_4 => cases h
  case h_5 =>
    obtain ⟨⟨l', s'⟩, hl, h⟩ := Option.map_eq_some_iff.1 h
    cases h
    exact headerLine_holds hl
  case h_6 =>
    obtain ⟨r, hr, h⟩ := Option.map_eq_some_iff.1 h
    cases h
    exact (readsOnly_value hP room maxNesting).assignmentOf hr

theorem linesOf_holds (hP : Inherited P) {room fuel : Nat} {s : List Char} {ls : List Line}
    (h : linesOf room fuel s = some ls) : ∀ l ∈ ls, l.Holds P := by
  induction fuel generalizing s ls with
  | zero =>
    rw [linesOf] at h
    split at h
    · cases h
      intro l hl
      cases hl
    · cases h
  | succ fuel ih =>
    rw [linesOf] at h
    split at h
    · cases h
      intro l hl
      cases hl
    · obtain ⟨⟨l, s'⟩, hl, h⟩ := Option.bind_eq_some_iff.1 h
      obtain ⟨ls', hls, h⟩ := Option.bind_eq_some_iff.1 h
      cases h
      obtain ⟨⟨l', s''⟩, hstatement, hl⟩ := Option.bind_eq_some_iff.1 hl
      obtain ⟨_, _, hl⟩ := Option.bind_eq_some_iff.1 hl
      cases hl
      intro k hk
      rcases List.mem_append.1 hk with hk | hk
      · rw [Option.mem_toList] at hk
        cases hk
        exact statement_holds hP hstatement
      · exact ih hls k hk

theorem apply_holds {d d' : Draft} {l : Line} (hl : l.Holds P) (h : d.entries.Holds P)
    (ha : l.apply d = some d') : d'.entries.Holds P := by
  cases l with
  | assignment path key v =>
    obtain ⟨entries, hu, ha⟩ := Option.bind_eq_some_iff.1 ha
    cases ha
    exact update_holds (fun _ _ _ hes => assign_holds hl hes) h hu
  | header path key =>
    obtain ⟨entries, hu, ha⟩ := Option.bind_eq_some_iff.1 ha
    cases ha
    exact header_holds h hu
  | arrayHeader path key =>
    obtain ⟨entries, hu, ha⟩ := Option.bind_eq_some_iff.1 ha
    cases ha
    exact arrayHeader_holds h hu

/-- **The entries of a document** have no key twice, and their values the property. -/
theorem Inherited.of_read (hP : Inherited P) {source : String} {entries : List (String × Value)}
    (h : read source = some entries) :
    (entries.map Prod.fst).Nodup ∧ ∀ e ∈ entries, P e.2 := by
  obtain ⟨ls, hls, h⟩ := Option.bind_eq_some_iff.1 h
  obtain ⟨draft, hdraft, h⟩ := Option.bind_eq_some_iff.1 h
  cases h
  have hin : draft.entries.Holds P :=
    keeps_foldlM_some (P := fun draft => draft.entries.Holds P)
      (fun _ l hl _ hd => apply_holds (linesOf_holds hP hls l hl) hd) Entries.holds_nil hdraft
  exact hin.toValues hP

/-! ## Integers and keys -/

/-- All integers in a value are of 64 bits with sign. -/
inductive Value.InRange : Value → Prop
  | string (s : String) : InRange (.string s)
  | integer {n : Int} (h : inIntegerRange n = true) : InRange (.integer n)
  | float (x : Binary64) : InRange (.float x)
  | boolean (b : Bool) : InRange (.boolean b)
  | moment (m : Moment) : InRange (.moment m)
  | array (ofTables : Bool) {items : List Value} (h : ∀ v ∈ items, InRange v) :
      InRange (.array ofTables items)
  | table {entries : List (String × Value)} (h : ∀ e ∈ entries, InRange e.2) :
      InRange (.table entries)

theorem inherited_inRange : Inherited Value.InRange where
  scalar := by
    rintro _ (s | hn | x | b | m)
    · exact .string s
    · exact .integer hn
    · exact .float x
    · exact .boolean b
    · exact .moment m
  array := fun ofTables _ h => .array ofTables h
  table := fun _ _ h => .table h

theorem inRange_of_read {source : String} {entries : List (String × Value)}
    (h : read source = some entries) : ∀ e ∈ entries, e.2.InRange :=
  (inherited_inRange.of_read h).2

theorem inherited_nodup :
    Inherited fun v => ∀ entries, v = .table entries → (entries.map Prod.fst).Nodup where
  scalar := by
    rintro _ (s | hn | x | b | m) entries he <;> cases he
  array := by
    intro ofTables items _ entries he
    cases he
  table := by
    intro entries hkeys _ _ he
    cases he
    exact hkeys

theorem nodup_of_read {source : String} {entries : List (String × Value)}
    (h : read source = some entries) :
    (entries.map Prod.fst).Nodup ∧
      ∀ key es, (key, .table es) ∈ entries → (es.map Prod.fst).Nodup :=
  ⟨(inherited_nodup.of_read h).1, fun _ es he => (inherited_nodup.of_read h).2 _ he es rfl⟩

end Replica.Toml
