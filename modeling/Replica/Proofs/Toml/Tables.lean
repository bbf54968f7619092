import Replica.Toml.Number
import Replica.Toml.Printer
import Replica.Toml.Tree

/-!
# The tables of a document that was written

* `Plain.value`, `writtenTable`, `Plain.InRange`: the values that are read, and the numbers for
  which they can be;
* `Entries.find?_add`, `Entries.replace_add`: the entry that was added last;
* `tableLines`, `apply_header`, `apply_assignment`: the lines of a table, and what each of them adds
  to the tables made so far;
* **`build_tableLines`**: the tables of all lines, if no name is used twice.
-/

namespace Replica.Toml

/-- The value that is read where this one is written. -/
def Plain.value : Plain → Value
  | text s => .string s
  | number n => .integer n
  | flag b => .boolean b

/-- The value that is read where a table with these entries is written. -/
def writtenTable (entries : List (String × Plain)) : Value :=
  .table (entries.map fun e => (e.1, e.2.value))

/-- A number is one that a document can hold. -/
def Plain.InRange : Plain → Prop
  | number n => n ≤ maxInteger
  | _ => True

instance (v : Plain) : Decidable v.InRange :=
  match v with
  | .number n => inferInstanceAs (Decidable (n ≤ maxInteger))
  | .text _ => inferInstanceAs (Decidable True)
  | .flag _ => inferInstanceAs (Decidable True)

/-! ## Entries -/

theorem Entries.find?_eq_none {key : String} {entries : Entries} (h : key ∉ entries.map Prod.fst) :
    Entries.find? key entries = none := by
  induction entries with
  | nil => rfl
  | cons e entries ih =>
    rw [List.map_cons, List.mem_cons, not_or] at h
    rw [Entries.find?, if_neg (Ne.symm h.1), ih h.2]

theorem Entries.find?_add {key : String} {entries : Entries} (h : key ∉ entries.map Prod.fst)
    (node : Node) : Entries.find? key (Entries.add key node entries) = some node := by
  induction entries with
  | nil => exact if_pos rfl
  | cons e entries ih =>
    rw [List.map_cons, List.mem_cons, not_or] at h
    exact (if_neg (Ne.symm h.1)).trans (ih h.2)

theorem Entries.replace_add {key : String} {entries : Entries} (h : key ∉ entries.map Prod.fst)
    (node node' : Node) :
    Entries.replace key node' (Entries.add key node entries) = Entries.add key node' entries := by
  have hsame : ∀ e ∈ entries, (if e.1 = key then (key, node') else e) = e := by
    intro e he
    refine if_neg fun hk => h ?_
    rw [← hk]
    exact List.mem_map_of_mem he
  rw [Entries.replace, Entries.add, List.map_append, List.map_congr_left hsame, List.map_id']
  simp [Entries.add]

theorem notMem_of_nodup_append {α : Type} {done rest : List (String × α)} {e : String × α}
    (h : ((done ++ e :: rest).map Prod.fst).Nodup) : e.1 ∉ done.map Prod.fst := by
  rw [List.map_append, List.map_cons] at h
  exact fun hmem => (List.nodup_append.1 h).2.2 _ hmem _ List.mem_cons_self rfl

/-! ## Lines -/

/-- The lines of a table. -/
def tableLines (name : String) (entries : List (String × Plain)) : List Line :=
  .header [] name :: entries.map fun e => .assignment [] e.1 e.2.value

theorem apply_header {name : String} {entries : Entries} (h : name ∉ entries.map Prod.fst)
    (current : List String) : Line.apply ⟨entries, current⟩ (.header [] name) =
      some ⟨Entries.add name (.table .header []) entries, [name]⟩ := by
  simp [Line.apply, header, update, Entries.find?_eq_none h]

theorem apply_assignment {name key : String} {entries inner : Entries} {v : Value}
    (hname : name ∉ entries.map Prod.fst) (hkey : key ∉ inner.map Prod.fst) :
    Line.apply ⟨Entries.add name (.table .header inner) entries, [name]⟩ (.assignment [] key v) =
      some ⟨Entries.add name (.table .header (Entries.add key (.value v) inner)) entries,
        [name]⟩ := by
  have hassign : assign [] key v .header inner = some (Entries.add key (.value v) inner) := by
    simp [assign, update, Entries.find?_eq_none hkey]
  simp [Line.apply, update, Entries.find?_add hname, hassign, Entries.replace_add hname]

/-- The entries of a table as they are kept while a document is read. -/
def plainNodes (entries : List (String × Plain)) : Entries :=
  entries.map fun e => (e.1, .value e.2.value)

theorem map_fst_plainNodes (entries : List (String × Plain)) :
    (plainNodes entries).map Prod.fst = entries.map Prod.fst := by
  simp [plainNodes]

theorem foldlM_assignments {name : String} {outer : Entries}
    (hname : name ∉ outer.map Prod.fst) (done : List (String × Plain))
    {entries : List (String × Plain)} (hkeys : ((done ++ entries).map Prod.fst).Nodup) :
    (entries.map fun e => Line.assignment [] e.1 e.2.value).foldlM Line.apply
        ⟨Entries.add name (.table .header (plainNodes done)) outer, [name]⟩ =
      some ⟨Entries.add name (.table .header (plainNodes (done ++ entries))) outer, [name]⟩ := by
  induction entries generalizing done with
  | nil => simp
  | cons e entries ih =>
    have hkey : e.1 ∉ (plainNodes done).map Prod.fst := by
      rw [map_fst_plainNodes]
      exact notMem_of_nodup_append hkeys
    have hnext : Entries.add e.1 (.value e.2.value) (plainNodes done) =
        plainNodes (done ++ [e]) := by
      simp [Entries.add, plainNodes]
    have happend : done ++ e :: entries = done ++ [e] ++ entries := by simp
    rw [happend] at hkeys ⊢
    rw [List.map_cons, List.foldlM_cons, apply_assignment hname hkey, Option.bind_eq_bind,
      Option.bind_some, hnext, ih _ hkeys]

/-! ## Documents -/

/-- The tables of a document as they are kept while it is read. -/
def plainTables (tables : List (String × List (String × Plain))) : Entries :=
  tables.map fun t => (t.1, .table .header (plainNodes t.2))

theorem foldlM_tableLines {name : String} {outer : Entries} (hname : name ∉ outer.map Prod.fst)
    {entries : List (String × Plain)} (hkeys : (entries.map Prod.fst).Nodup)
    (current : List String) : (tableLines name entries).foldlM Line.apply ⟨outer, current⟩ =
      some ⟨Entries.add name (.table .header (plainNodes entries)) outer, [name]⟩ := by
  have hrest := foldlM_assignments hname [] hkeys
  rw [tableLines, List.foldlM_cons, apply_header hname, Option.bind_eq_bind, Option.bind_some]
  exact hrest

theorem foldlM_tables (outer : List (String × List (String × Plain)))
    {tables : List (String × List (String × Plain))}
    (hnames : ((outer ++ tables).map Prod.fst).Nodup)
    (hkeys : ∀ t ∈ tables, (t.2.map Prod.fst).Nodup) (current : List String) :
    ∃ last, (tables.flatMap fun t => tableLines t.1 t.2).foldlM Line.apply
      ⟨plainTables outer, current⟩ = some ⟨plainTables (outer ++ tables), last⟩ := by
  induction tables generalizing outer current with
  | nil => exact ⟨current, by simp⟩
  | cons t tables ih =>
    have hname : t.1 ∉ (plainTables outer).map Prod.fst := by
      have hmap : (plainTables outer).map Prod.fst = outer.map Prod.fst := by simp [plainTables]
      rw [hmap]
      exact notMem_of_nodup_append hnames
    have hnext : Entries.add t.1 (.table .header (plainNodes t.2)) (plainTables outer) =
        plainTables (outer ++ [t]) := by
      simp [Entries.add, plainTables]
    have happend : outer ++ t :: tables = outer ++ [t] ++ tables := by simp
    rw [happend] at hnames ⊢
    obtain ⟨last, hlast⟩ := ih _ hnames (fun u hu => hkeys u (List.mem_cons_of_mem _ hu)) [t.1]
    refine ⟨last, ?_⟩
    rw [List.flatMap_cons, List.foldlM_append, foldlM_tableLines hname (hkeys t List.mem_cons_self),
      Option.bind_eq_bind, Option.bind_some, hnext, hlast]

theorem entriesToValues_eq_map (entries : Entries) :
    entriesToValues entries = entries.map fun e => (e.1, e.2.toValue) := by
  induction entries with
  | nil => rfl
  | cons e entries ih => rw [entriesToValues, ih, List.map_cons]

theorem toValue_plainNodes (origin : Origin) (entries : List (String × Plain)) :
    (Node.table origin (plainNodes entries)).toValue = writtenTable entries := by
  rw [writtenTable, Node.toValue, entriesToValues_eq_map, plainNodes, List.map_map]
  simp [Function.comp_def, Node.toValue]

/-- **The tables of all lines.** -/
theorem build_tableLines {tables : List (String × List (String × Plain))}
    (hnames : (tables.map Prod.fst).Nodup) (hkeys : ∀ t ∈ tables, (t.2.map Prod.fst).Nodup) :
    build (tables.flatMap fun t => tableLines t.1 t.2) =
      some (tables.map fun t => (t.1, writtenTable t.2)) := by
  obtain ⟨last, hlast⟩ := foldlM_tables [] hnames hkeys []
  rw [build]
  have hstart : (⟨[], []⟩ : Draft) = ⟨plainTables [], []⟩ := rfl
  rw [hstart, hlast, Option.bind_eq_bind, Option.bind_some, List.nil_append,
    entriesToValues_eq_map, plainTables, List.map_map]
  simp only [Function.comp_def, toValue_plainNodes]
  rfl

end Replica.Toml
