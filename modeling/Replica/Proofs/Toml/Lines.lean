import Replica.Proofs.Toml.Strings
import Replica.Proofs.Toml.Tables

/-!
# Lines are read as they were written

A value, a key and a line as the printer writes them, in front of the line feed or the sign that
comes next.

* `integerPart_toDigits`, `numberOf_toDigits`, `number_toDigits`: a natural number;
* **`value_chars`**: a value that holds no others;
* `keys_keyText`: a key of one part;
* **`line_assignment`**, **`line_header`**, `line_blank`: the three kinds of lines.
-/

namespace Replica.Toml

/-! ## Natural numbers -/

theorem isDigit_of_mem_toDigits {n : Nat} {c : Char} (h : c ∈ Nat.toDigits 10 n) :
    isDigit c = true := by
  have hc := Nat.isDigit_of_mem_toDigits (by decide) (by decide) h
  simpa [isDigit, between, Char.isDigit_iff_toNat] using hc

theorem isDigit_or_eq_of_mem {n : Nat} {c : Char} {rest : List Char} {k : Nat}
    (h : (Nat.toDigits 10 n ++ '\n' :: rest)[k]? = some c) (hk : k ≤ (Nat.toDigits 10 n).length) :
    isDigit c = true ∨ c = '\n' := by
  rcases Nat.lt_or_eq_of_le hk with hlt | rfl
  · rw [List.getElem?_append_left hlt] at h
    exact .inl (isDigit_of_mem_toDigits (List.mem_of_getElem? h))
  · simp at h
    exact .inr h.symm

theorem toDigits_eq_zero_cons {n : Nat} {ds : List Char} (h : Nat.toDigits 10 n = '0' :: ds) :
    ds = [] := by
  induction n using Nat.strongRecOn generalizing ds with
  | ind n ih =>
    by_cases hn : n < 10
    · rw [Nat.toDigits_of_lt_base hn] at h
      exact (List.cons.inj h).2.symm
    · have hstep := Nat.toDigits_of_base_le (by decide : 1 < 10) (Nat.not_lt.1 hn)
      obtain ⟨d, es, hes⟩ := List.exists_cons_of_ne_nil
        (Nat.toDigits_ne_nil (n := n / 10) (b := 10))
      rw [hstep, hes] at h
      obtain ⟨rfl, -⟩ := List.cons.inj h
      -- in front of the last digit stands zero alone, so there was no other
      have hnil := ih (n / 10) (by omega) hes
      have hzero : n / 10 = 0 := by
        have := Nat.ofDigitChars_toDigits (n := n / 10) (by decide : 1 < 10) (by decide)
        rw [hes, hnil] at this
        exact this.symm
      omega

theorem moreDigits_append {ds : List Char} (h : ∀ c ∈ ds, isDigit c = true) (rest : List Char) :
    moreDigits isDigit (ds ++ '\n' :: rest) = some (ds, '\n' :: rest) := by
  induction ds with
  | nil =>
    rw [List.nil_append, moreDigits.eq_def]
    rfl
  | cons d ds ih =>
    rw [List.cons_append, moreDigits.eq_def]
    dsimp only
    rw [if_pos (h d List.mem_cons_self), ih fun c hc => h c (List.mem_cons_of_mem _ hc)]
    rfl

theorem integerPart_toDigits (n : Nat) (rest : List Char) :
    integerPart (Nat.toDigits 10 n ++ '\n' :: rest) = some (Nat.toDigits 10 n, '\n' :: rest) := by
  have hdigits : ∀ c ∈ Nat.toDigits 10 n, isDigit c = true := fun _ => isDigit_of_mem_toDigits
  obtain ⟨d, ds, hds⟩ := List.exists_cons_of_ne_nil (Nat.toDigits_ne_nil (n := n) (b := 10))
  have hrun : digitRun isDigit (d :: ds ++ '\n' :: rest) = some (d :: ds, '\n' :: rest) := by
    rw [hds] at hdigits
    rw [List.cons_append, digitRun, if_pos (hdigits d List.mem_cons_self),
      moreDigits_append fun c hc => hdigits c (List.mem_cons_of_mem _ hc)]
    rfl
  rw [hds]
  unfold integerPart
  split
  · rename_i heq
    obtain ⟨rfl, htail⟩ := List.cons.inj heq
    rw [toDigits_eq_zero_cons hds] at htail ⊢
    rw [← htail]
    rfl
  · exact hrun

theorem numberOf_toDigits (n : Nat) : numberOf (Nat.toDigits 10 n) = n := by
  have h := Nat.ofDigitChars_toDigits (n := n) (by decide : 1 < 10) (by decide)
  rw [Nat.ofDigitChars_eq_foldl] at h
  rw [numberOf, ofDigits_eq_foldl, List.foldl_map]
  exact h

theorem isDigit_ne {c d : Char} (h : isDigit c = true) (hd : isDigit d = false) : c ≠ d := by
  rintro rfl
  rw [h] at hd
  cases hd

theorem cons_ne_of_isDigit {c d : Char} (h : isDigit c = true) (hd : isDigit d = false)
    (s t : List Char) : c :: s ≠ d :: t := fun e => isDigit_ne h hd (List.cons.inj e).1

theorem not_startsDigits_of_mark {n count : Nat} {mark : Char} {rest : List Char}
    (hmark : isDigit mark = false) (hl : mark ≠ '\n') :
    (startsDigits count (Nat.toDigits 10 n ++ '\n' :: rest) &&
      ((Nat.toDigits 10 n ++ '\n' :: rest).drop count).head? == some mark) = false := by
  rw [Bool.and_eq_false_imp, startsDigits, Bool.and_eq_true, List.all_eq_true]
  rintro ⟨-, hall⟩
  rw [beq_eq_false_iff_ne, List.head?_drop]
  intro hget
  -- the mark would be a digit or the line feed, or the line feed one of the digits before it
  by_cases hle : count ≤ (Nat.toDigits 10 n).length
  · rcases isDigit_or_eq_of_mem hget hle with h | h
    · exact isDigit_ne h hmark rfl
    · exact hl h
  · have hmem : '\n' ∈ (Nat.toDigits 10 n ++ '\n' :: rest).take count := by
      rw [List.take_append, List.mem_append]
      obtain ⟨k, hk⟩ : ∃ k, count - (Nat.toDigits 10 n).length = k + 1 :=
        ⟨count - (Nat.toDigits 10 n).length - 1, by omega⟩
      rw [hk]
      exact .inr List.mem_cons_self
    exact absurd (hall _ hmem) (by decide)

theorem inIntegerRange_natCast {n : Nat} (hn : n ≤ maxInteger) :
    inIntegerRange (n : Int) = true := by
  simp only [inIntegerRange, Bool.and_eq_true, decide_eq_true_eq]
  omega

theorem decimal_of_integerPart {negative : Bool} {s digits rest : List Char}
    (h : integerPart s = some (digits, '\n' :: rest)) :
    decimal negative s =
      integerValue (if negative then -(numberOf digits : Int) else numberOf digits)
        ('\n' :: rest) := by
  rw [decimal, h]
  rfl

theorem decimal_toDigits {n : Nat} (hn : n ≤ maxInteger) (rest : List Char) :
    decimal false (Nat.toDigits 10 n ++ '\n' :: rest) = some (.integer n, '\n' :: rest) := by
  rw [decimal_of_integerPart (integerPart_toDigits n rest), numberOf_toDigits]
  exact if_pos (inIntegerRange_natCast hn)

theorem number_toDigits {n : Nat} (hn : n ≤ maxInteger) (rest : List Char) :
    number (Nat.toDigits 10 n ++ '\n' :: rest) = some (.integer n, '\n' :: rest) := by
  obtain ⟨d, ds, hds⟩ := List.exists_cons_of_ne_nil (Nat.toDigits_ne_nil (n := n) (b := 10))
  have hd : isDigit d = true := isDigit_of_mem_toDigits (hds ▸ List.mem_cons_self)
  have hmark : ∀ c t, Nat.toDigits 10 n ++ '\n' :: rest = '0' :: c :: t → c = '\n' := by
    intro c t e
    rw [hds, List.cons_append] at e
    obtain ⟨rfl, htail⟩ := List.cons.inj e
    rw [toDigits_eq_zero_cons hds] at htail
    exact (List.cons.inj htail).1.symm
  have hsign : sign (Nat.toDigits 10 n ++ '\n' :: rest) =
      (false, Nat.toDigits 10 n ++ '\n' :: rest) := by
    rw [hds]
    unfold sign
    split
    · exact absurd ‹_› (cons_ne_of_isDigit hd (by decide) _ _)
    · exact absurd ‹_› (cons_ne_of_isDigit hd (by decide) _ _)
    · rfl
  have hspecial : special? false (Nat.toDigits 10 n ++ '\n' :: rest) = none := by
    rw [hds]
    unfold special?
    split
    · exact absurd ‹_› (cons_ne_of_isDigit hd (by decide) _ _)
    · exact absurd ‹_› (cons_ne_of_isDigit hd (by decide) _ _)
    · rfl
  unfold number
  split
  · exact absurd (hmark _ _ ‹_›) (by decide)
  · exact absurd (hmark _ _ ‹_›) (by decide)
  · exact absurd (hmark _ _ ‹_›) (by decide)
  · simp only [hsign, hspecial, decimal_toDigits hn]

/-! ## Values -/

theorem value_eq_scalar (room depth : Nat) {c : Char} (ha : c ≠ '[') (ht : c ≠ '{')
    (s : List Char) : value room depth (c :: s) = scalar (c :: s) := by
  cases depth with
  | zero =>
    unfold value
    split
    · exact absurd (List.cons.inj ‹_›).1 ha
    · exact absurd (List.cons.inj ‹_›).1 ht
    · rfl
  | succ depth =>
    unfold value
    split
    · exact absurd (List.cons.inj ‹_›).1 ha
    · exact absurd (List.cons.inj ‹_›).1 ht
    · rfl

theorem scalar_toDigits {n : Nat} (hn : n ≤ maxInteger) (rest : List Char) :
    scalar (Nat.toDigits 10 n ++ '\n' :: rest) = some (.integer n, '\n' :: rest) := by
  obtain ⟨d, ds, hds⟩ := List.exists_cons_of_ne_nil (Nat.toDigits_ne_nil (n := n) (b := 10))
  have hd : isDigit d = true := isDigit_of_mem_toDigits (hds ▸ List.mem_cons_self)
  have hdate : startsDate (Nat.toDigits 10 n ++ '\n' :: rest) = false :=
    not_startsDigits_of_mark (by decide) (by decide)
  have htime : startsTime (Nat.toDigits 10 n ++ '\n' :: rest) = false :=
    not_startsDigits_of_mark (by decide) (by decide)
  have hnumber := number_toDigits hn rest
  rw [hds] at hdate htime hnumber ⊢
  unfold scalar
  split
  · exact absurd ‹_› (cons_ne_of_isDigit hd (by decide) _ _)
  · exact absurd ‹_› (cons_ne_of_isDigit hd (by decide) _ _)
  · exact absurd ‹_› (cons_ne_of_isDigit hd (by decide) _ _)
  · exact absurd ‹_› (cons_ne_of_isDigit hd (by decide) _ _)
  · rw [hdate, htime]
    exact hnumber

theorem stringText_eq_cons (s : String) :
    ∃ c t, stringText s = c :: t ∧ (c = '"' ∨ c = '\'') := by
  unfold stringText
  cases formOf s.toList with
  | basic => exact ⟨'"', _, rfl, .inl rfl⟩
  | literal => exact ⟨'\'', _, rfl, .inr rfl⟩
  | basicLines => exact ⟨'"', _, rfl, .inl rfl⟩
  | literalLines => exact ⟨'\'', _, rfl, .inr rfl⟩

theorem scalar_stringText (s : String) (rest : List Char) :
    scalar (stringText s ++ '\n' :: rest) = some (.string s, '\n' :: rest) := by
  have htext : text (stringText s ++ '\n' :: rest) = some (s, '\n' :: rest) :=
    text_stringText s (by simp) (by simp)
  obtain ⟨c, t, ht, rfl | rfl⟩ := stringText_eq_cons s
  · rw [ht] at htext ⊢
    exact congrArg (Option.map fun r => (Value.string r.1, r.2)) htext
  · rw [ht] at htext ⊢
    exact congrArg (Option.map fun r => (Value.string r.1, r.2)) htext

theorem scalar_chars {p : Plain} (h : p.InRange) (rest : List Char) :
    scalar (p.chars ++ '\n' :: rest) = some (p.value, '\n' :: rest) := by
  cases p with
  | text s => exact scalar_stringText s rest
  | number n =>
    have hchars : (Plain.number n).chars = Nat.toDigits 10 n := by simp [Plain.chars, natText]
    rw [hchars]
    exact scalar_toDigits h rest
  | flag b => cases b <;> rfl

theorem chars_eq_cons (p : Plain) :
    ∃ c t, p.chars = c :: t ∧ isWs c = false ∧ c ≠ '[' ∧ c ≠ '{' := by
  cases p with
  | text s =>
    obtain ⟨c, t, ht, rfl | rfl⟩ := stringText_eq_cons s
    · exact ⟨'"', t, ht, by decide, by decide, by decide⟩
    · exact ⟨'\'', t, ht, by decide, by decide, by decide⟩
  | number n =>
    obtain ⟨d, ds, hds⟩ := List.exists_cons_of_ne_nil (Nat.toDigits_ne_nil (n := n) (b := 10))
    have hd : isDigit d = true := isDigit_of_mem_toDigits (hds ▸ List.mem_cons_self)
    refine ⟨d, ds, by simp [Plain.chars, natText, hds], ?_, isDigit_ne hd (by decide),
      isDigit_ne hd (by decide)⟩
    simp only [isWs, Bool.or_eq_false_iff, beq_eq_false_iff_ne]
    exact ⟨isDigit_ne hd (by decide), isDigit_ne hd (by decide)⟩
  | flag b =>
    cases b with
    | true => exact ⟨'t', _, rfl, by decide, by decide, by decide⟩
    | false => exact ⟨'f', _, rfl, by decide, by decide, by decide⟩

/-- **A value is read as it was written.** -/
theorem value_chars {p : Plain} (h : p.InRange) (room depth : Nat) (rest : List Char) :
    value room depth (p.chars ++ '\n' :: rest) = some (p.value, '\n' :: rest) := by
  have hscalar := scalar_chars h rest
  obtain ⟨c, t, ht, -, ha, hb⟩ := chars_eq_cons p
  rw [ht] at hscalar ⊢
  exact (value_eq_scalar room depth ha hb _).trans hscalar

/-! ## Keys -/

theorem skipWs_cons {c : Char} (h : isWs c = false) (s : List Char) :
    skipWs (c :: s) = c :: s := by
  simp [skipWs, h]

theorem first_of_keyText (name : String) :
    ∃ c t, keyText name = c :: t ∧ isWs c = false ∧ c ≠ '[' ∧ c ≠ '#' ∧ c ≠ '\n' ∧ c ≠ '\r' := by
  obtain ⟨c, t, ht, h⟩ := keyText_eq_cons name
  rcases h with rfl | rfl | h
  · exact ⟨_, t, ht, by decide, by decide, by decide, by decide, by decide⟩
  · exact ⟨_, t, ht, by decide, by decide, by decide, by decide, by decide⟩
  · have hne : ∀ d, inBareKey d = false → c ≠ d := by
      rintro d hd rfl
      rw [h] at hd
      cases hd
    refine ⟨c, t, ht, ?_, hne _ (by decide), hne _ (by decide), hne _ (by decide),
      hne _ (by decide)⟩
    simp only [isWs, Bool.or_eq_false_iff, beq_eq_false_iff_ne]
    exact ⟨hne _ (by decide), hne _ (by decide)⟩

theorem skipWs_keyText (name : String) (rest : List Char) :
    skipWs (keyText name ++ rest) = keyText name ++ rest := by
  obtain ⟨c, t, ht, hws, -⟩ := first_of_keyText name
  rw [ht, List.cons_append, skipWs_cons hws]

theorem keys_keyText (name : String) {rest : List Char}
    (hr : ∀ c ∈ rest.head?, inBareKey c = false) (hdot : ∀ t, skipWs rest ≠ '.' :: t) :
    keys (keyText name ++ rest) = some (([], name), skipWs rest) := by
  have hparts : keyParts maxNesting (keyText name ++ rest) = some ([name], skipWs rest) := by
    unfold maxNesting keyParts
    rw [skipWs_keyText, simpleKey_keyText name hr]
    dsimp only [Option.bind_eq_bind, Option.bind_some]
    split
    · exact absurd ‹_› (hdot _)
    · rfl
  rw [keys, hparts]
  rfl

/-! ## Lines -/

theorem assignmentOf_text (key : String) {p : Plain} (h : p.InRange) (room : Nat)
    (rest : List Char) :
    assignmentOf (value room maxNesting) (keyText key ++ " = ".toList ++ p.chars ++ '\n' :: rest) =
      some (([], key, p.value), '\n' :: rest) := by
  have hkey : keys (keyText key ++ (' ' :: '=' :: ' ' :: (p.chars ++ '\n' :: rest))) =
      some (([], key), '=' :: ' ' :: (p.chars ++ '\n' :: rest)) :=
    keys_keyText key (by simp; decide) (by simp [skipWs, isWs])
  have hskip : skipWs (' ' :: (p.chars ++ '\n' :: rest)) = p.chars ++ '\n' :: rest := by
    obtain ⟨c, t, ht, hws, -⟩ := chars_eq_cons p
    rw [ht]
    exact skipWs_cons hws _
  have htext : keyText key ++ " = ".toList ++ p.chars ++ '\n' :: rest =
      keyText key ++ (' ' :: '=' :: ' ' :: (p.chars ++ '\n' :: rest)) := by
    simp
  rw [htext, assignmentOf, hkey]
  simp only [Option.bind_eq_bind, Option.bind_some, expect, if_true, hskip, value_chars h]
  rfl

/-- **An assignment is read as it was written.** -/
theorem line_assignment (key : String) {p : Plain} (h : p.InRange) (room : Nat)
    (rest : List Char) :
    line room (assignmentText key p ++ rest) = some (some (.assignment [] key p.value), rest) := by
  have htext : assignmentText key p ++ rest =
      keyText key ++ " = ".toList ++ p.chars ++ '\n' :: rest := by
    simp [assignmentText]
  have hassign := assignmentOf_text key h room rest
  obtain ⟨c, t, ht, hws, ha, hc, hn, hr⟩ := first_of_keyText key
  rw [htext, line]
  rw [ht] at hassign ⊢
  rw [List.cons_append, List.cons_append, List.cons_append, skipWs_cons hws] at *
  have hstatement : statement room (c :: (t ++ " = ".toList ++ p.chars ++ '\n' :: rest)) =
      some (some (.assignment [] key p.value), '\n' :: rest) := by
    unfold statement
    split
    · cases ‹_›
    · exact absurd (List.cons.inj ‹_›).1 hc
    · exact absurd (List.cons.inj ‹_›).1 hn
    · exact absurd (List.cons.inj ‹_›).1 hr
    · exact absurd (List.cons.inj ‹_›).1 ha
    · rw [hassign]
      rfl
  rw [hstatement]
  rfl

theorem headerLine_text (name : String) (rest : List Char) :
    headerLine (keyText name ++ ']' :: '\n' :: rest) =
      some (.header [] name, '\n' :: rest) := by
  have hkey : keys (keyText name ++ ']' :: '\n' :: rest) =
      some (([], name), ']' :: '\n' :: rest) :=
    keys_keyText name (by simp; decide) (by simp [skipWs, isWs])
  obtain ⟨c, t, ht, -, ha, -⟩ := first_of_keyText name
  unfold headerLine
  split
  · rename_i heq
    rw [ht] at heq
    exact absurd (List.cons.inj heq).1 ha
  · rw [hkey]
    rfl

/-- **A header is read as it was written.** -/
theorem line_header (name : String) (room : Nat) (rest : List Char) :
    line room ('[' :: keyText name ++ [']', '\n'] ++ rest) =
      some (some (.header [] name), rest) := by
  have htext : '[' :: keyText name ++ [']', '\n'] ++ rest =
      '[' :: (keyText name ++ ']' :: '\n' :: rest) := by
    simp
  rw [htext, line, skipWs_cons (by decide), statement, headerLine_text]
  rfl

theorem line_blank (room : Nat) (rest : List Char) : line room ('\n' :: rest) = some (none, rest) :=
  rfl

end Replica.Toml
