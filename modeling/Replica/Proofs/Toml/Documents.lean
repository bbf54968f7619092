import Replica.Proofs.Toml.Lines
import Replica.Proofs.Toml.Tables

/-!
# Documents are read as they were written

* `HasLines`: the lines of a text, read one after the other;
* `HasLines.cons`, `HasLines.assignments`, `HasLines.table`: one line, the assignments of a table,
  and a table with its header in front of what follows;
* `hasLines_document`: the lines of a document;
* **`read_document`**: what is read is what was written, if no name is used twice.
-/

namespace Replica.Toml

/-! ## Lines -/

/-- The lines of a text, read with fuel for its length. -/
def HasLines (room : Nat) (s : List Char) (ls : List Line) : Prop :=
  ∀ fuel, s.length ≤ fuel → linesOf room fuel s = some ls

section

variable {room : Nat} {rest : List Char} {ls : List Line}

theorem hasLines_nil : HasLines room [] [] := by
  intro fuel _
  cases fuel <;> rfl

theorem HasLines.cons {t : List Char} {l : Option Line} (ht : t ≠ [])
    (hl : line room (t ++ rest) = some (l, rest)) (h : HasLines room rest ls) :
    HasLines room (t ++ rest) (l.toList ++ ls) := by
  intro fuel hfuel
  have hpos := List.length_pos_iff.2 ht
  rw [List.length_append] at hfuel
  obtain ⟨fuel, rfl⟩ : ∃ f, fuel = f + 1 := ⟨fuel - 1, by omega⟩
  have hrest := h fuel (by omega)
  have hne : (t ++ rest).isEmpty = false := by simp [ht]
  rw [linesOf, hne]
  simp only [Bool.false_eq_true, if_false, hl, hrest, Option.bind_eq_bind, Option.bind_some]
  rfl

theorem HasLines.assignments {entries : List (String × Plain)}
    (hin : ∀ e ∈ entries, e.2.InRange) (h : HasLines room rest ls) :
    HasLines room ((entries.flatMap fun e => assignmentText e.1 e.2) ++ rest)
      ((entries.map fun e => .assignment [] e.1 e.2.value) ++ ls) := by
  induction entries with
  | nil => exact h
  | cons e entries ih =>
    have htail := ih fun e' he => hin e' (List.mem_cons_of_mem _ he)
    rw [List.flatMap_cons, List.append_assoc]
    exact .cons (by simp [assignmentText]) (line_assignment e.1 (hin e List.mem_cons_self) room _)
      htail

theorem HasLines.table {entries : List (String × Plain)} (name : String)
    (hin : ∀ e ∈ entries, e.2.InRange) (h : HasLines room rest ls) :
    HasLines room (tableText name entries ++ rest) (tableLines name entries ++ ls) := by
  have hassign := h.assignments hin
  rw [tableText, List.append_assoc]
  exact .cons (by simp) (line_header name room _) hassign

end

theorem hasLines_document (room : Nat) {tables : List (String × List (String × Plain))}
    (hin : ∀ t ∈ tables, ∀ e ∈ t.2, e.2.InRange) :
    HasLines room (List.intercalate ['\n'] (tables.map fun t => tableText t.1 t.2))
      (tables.flatMap fun t => tableLines t.1 t.2) := by
  induction tables with
  | nil => exact hasLines_nil
  | cons t tables ih =>
    have ht := hin t List.mem_cons_self
    have htail := ih fun u hu => hin u (List.mem_cons_of_mem _ hu)
    cases tables with
    | nil =>
      have hone := (hasLines_nil : HasLines room [] []).table t.1 ht
      simpa using hone
    | cons u tables =>
      have hblank := HasLines.cons (t := ['\n']) (by simp) (line_blank room _) htail
      have htable := hblank.table t.1 ht
      simpa [List.intercalate] using htable

/-! ## Documents -/

theorem skipMark_document (tables : List (String × List (String × Plain))) :
    skipMark (document tables).toList =
      List.intercalate ['\n'] (tables.map fun t => tableText t.1 t.2) := by
  rw [document, String.toList_ofList]
  cases tables with
  | nil => rfl
  | cons t tables =>
    cases tables with
    | nil => simp [List.intercalate, tableText, skipMark]
    | cons u tables => simp [List.intercalate, tableText, skipMark]

/-- **A document is read as it was written**, if no table and no key of a table stands in it twice
and its numbers are not too large. -/
theorem read_document {tables : List (String × List (String × Plain))}
    (hnames : (tables.map Prod.fst).Nodup) (hkeys : ∀ t ∈ tables, (t.2.map Prod.fst).Nodup)
    (hin : ∀ t ∈ tables, ∀ e ∈ t.2, e.2.InRange) :
    read (document tables) = some (tables.map fun t => (t.1, writtenTable t.2)) := by
  have hlines : lines (document tables) = some (tables.flatMap fun t => tableLines t.1 t.2) := by
    rw [lines, skipMark_document]
    exact hasLines_document _ hin _ (Nat.le_refl _)
  rw [read, hlines, Option.bind_eq_bind, Option.bind_some, build_tableLines hnames hkeys]

end Replica.Toml
