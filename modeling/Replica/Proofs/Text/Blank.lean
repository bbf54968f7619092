import Mathlib.Data.List.TakeWhile
import Replica.Text

/-!
# Trimmed texts

* **`dropEndWhile_eq_iff`**: a list without what is dropped at its end;
* `isBlankText_iff`: a text of blanks is one that trimming empties;
* `Trimmed`: a text, and what stands between the blanks at its two ends;
* `trim_append`, `exists_trim`: trimming takes blanks at both ends away, and nothing else;
* **`trim_eq_iff`**: it leaves what stands between the blanks.
-/

namespace Replica.Text

variable {p : Char → Bool} {cs kept dropped : List Char}

/-! ## What is dropped -/

theorem dropWhile_eq_self (h : ∀ c ∈ cs.head?, p c = false) : cs.dropWhile p = cs := by
  cases cs with
  | nil => rfl
  | cons c cs => exact List.dropWhile_cons_of_neg (by simp [h c rfl])

theorem head?_dropWhile (p : Char → Bool) (cs : List Char) :
    ∀ c ∈ (cs.dropWhile p).head?, p c = false := by
  intro c hc
  have h := List.head?_dropWhile_not p cs
  rw [Option.mem_def.1 hc] at h
  simpa using h

theorem dropEndWhile_append (h : ∀ c ∈ dropped, p c = true) (cs : List Char) :
    dropEndWhile p (cs ++ dropped) = dropEndWhile p cs := by
  have hr : ∀ c ∈ dropped.reverse, p c = true := fun c hc => h c (List.mem_reverse.1 hc)
  rw [dropEndWhile, List.reverse_append, List.dropWhile_append_of_pos hr]
  rfl

theorem dropEndWhile_eq_self (h : ∀ c ∈ cs.getLast?, p c = false) : dropEndWhile p cs = cs := by
  rw [dropEndWhile, dropWhile_eq_self (by rwa [List.head?_reverse]), List.reverse_reverse]

theorem exists_dropEndWhile (p : Char → Bool) (cs : List Char) :
    ∃ dropped, cs = dropEndWhile p cs ++ dropped ∧ ∀ c ∈ dropped, p c = true := by
  refine ⟨(cs.reverse.takeWhile p).reverse, ?_,
    fun c hc => List.mem_takeWhile_imp (List.mem_reverse.1 hc)⟩
  rw [dropEndWhile, ← List.reverse_append, List.takeWhile_append_dropWhile, List.reverse_reverse]

theorem getLast?_dropEndWhile (p : Char → Bool) (cs : List Char) :
    ∀ c ∈ (dropEndWhile p cs).getLast?, p c = false := by
  rw [dropEndWhile, List.getLast?_reverse]
  exact head?_dropWhile p _

/-- **What is dropped at the end** satisfies the predicate, and the last character that is kept does
not. -/
theorem dropEndWhile_eq_iff :
    dropEndWhile p cs = kept ↔
      (∃ dropped, cs = kept ++ dropped ∧ ∀ c ∈ dropped, p c = true) ∧
        ∀ c ∈ kept.getLast?, p c = false := by
  constructor
  · rintro rfl
    exact ⟨exists_dropEndWhile p cs, getLast?_dropEndWhile p cs⟩
  · rintro ⟨⟨dropped, rfl, hdropped⟩, hlast⟩
    rw [dropEndWhile_append hdropped, dropEndWhile_eq_self hlast]

/-! ## Trimming -/

theorem isBlankText_iff (s : String) : isBlankText s = true ↔ trim s = "" := by
  have hblank : isBlankText s = true ↔ ∀ c ∈ s.toList, isBlank c = true := by
    simp [isBlankText]
  rw [hblank, trim, ← String.ofList_nil, String.ofList_inj, dropEndWhile, List.reverse_eq_nil_iff,
    List.dropWhile_eq_nil_iff]
  constructor
  · intro h c hc
    exact h c ((List.dropWhile_suffix _).subset (List.mem_reverse.1 hc))
  · intro h c hc
    rw [← List.takeWhile_append_dropWhile (p := isBlank) (l := s.toList), List.mem_append] at hc
    rcases hc with hc | hc
    · exact List.mem_takeWhile_imp hc
    · exact h c (List.mem_reverse.2 hc)

/-- `t` is `s` without the blanks at its two ends. -/
structure Trimmed (s t : String) : Prop where
  between : ∃ left right, s.toList = left ++ (t.toList ++ right) ∧
    (∀ c ∈ left, isBlank c = true) ∧ ∀ c ∈ right, isBlank c = true
  first : ∀ c ∈ t.toList.head?, isBlank c = false
  last : ∀ c ∈ t.toList.getLast?, isBlank c = false

theorem trim_append {left cs right : List Char} (hl : ∀ c ∈ left, isBlank c = true)
    (hr : ∀ c ∈ right, isBlank c = true) (hfirst : ∀ c ∈ cs.head?, isBlank c = false)
    (hlast : ∀ c ∈ cs.getLast?, isBlank c = false) :
    trim (String.ofList (left ++ (cs ++ right))) = String.ofList cs := by
  rw [trim, String.toList_ofList, List.dropWhile_append_of_pos hl, String.ofList_inj]
  cases cs with
  | nil =>
    rw [List.nil_append, List.dropWhile_eq_nil_iff.2 hr]
    rfl
  | cons c cs =>
    have hstays : (c :: cs ++ right).dropWhile isBlank = c :: cs ++ right :=
      dropWhile_eq_self hfirst
    rw [hstays, dropEndWhile_append hr, dropEndWhile_eq_self hlast]

theorem exists_trim (cs : List Char) :
    ∃ left right, cs = left ++ ((trim (String.ofList cs)).toList ++ right) ∧
      (∀ c ∈ left, isBlank c = true) ∧ ∀ c ∈ right, isBlank c = true := by
  obtain ⟨right, hright, hblank⟩ := exists_dropEndWhile isBlank (cs.dropWhile isBlank)
  refine ⟨cs.takeWhile isBlank, right, ?_, fun c hc => List.mem_takeWhile_imp hc, hblank⟩
  rw [trim, String.toList_ofList, String.toList_ofList, ← hright, List.takeWhile_append_dropWhile]

theorem trimmed_trim (s : String) : Trimmed s (trim s) where
  between := by
    have h := exists_trim s.toList
    rwa [String.ofList_toList] at h
  first := by
    intro c hc
    -- what is left begins as the text without the blanks in front does
    obtain ⟨right, hright, -⟩ := exists_dropEndWhile isBlank (s.toList.dropWhile isBlank)
    rw [trim, String.toList_ofList] at hc
    refine head?_dropWhile isBlank s.toList c ?_
    rw [hright, List.head?_append, Option.mem_def.1 hc]
    rfl
  last := by
    rw [trim, String.toList_ofList]
    exact getLast?_dropEndWhile _ _

/-- **Trimming** leaves what stands between the blanks at the two ends. -/
theorem trim_eq_iff {s t : String} : trim s = t ↔ Trimmed s t := by
  constructor
  · rintro rfl
    exact trimmed_trim s
  · rintro ⟨⟨left, right, hs, hl, hr⟩, hfirst, hlast⟩
    have h := trim_append hl hr hfirst hlast
    rwa [← hs, String.ofList_toList, String.ofList_toList] at h

end Replica.Text
