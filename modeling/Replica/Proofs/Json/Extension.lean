import Mathlib.Data.List.TakeWhile
import Replica.Proofs.Json.Values

/-!
# More octets behind a text

A reader does not look beyond the octet at which it stops. What it reads of a text it also reads of
any longer one, and it leaves the octets that are added behind those that it left before. Only a
number needs an octet behind it to end.

* `readString_extend`: a string that is decoded;
* `skipNumber_extend`: a number with something behind it;
* `atValue_extend`, `atKey_extend`, `atComma_extend`: the steps of the reader with open brackets;
* **`skipOpen_extend`**, `skipValue_extend`: a value with something behind it.
-/

namespace Replica.Json

variable {s t : Bytes} {b : UInt8}

/-! ## Blanks -/

theorem dropWhile_extend {p : UInt8 → Bool} (h : s.dropWhile p ≠ []) (more : Bytes) :
    (s ++ more).dropWhile p = s.dropWhile p ++ more := by
  rw [List.dropWhile_append, if_neg (by rwa [List.isEmpty_iff])]

theorem skipSpace_extend (h : skipSpace s = b :: t) (more : Bytes) :
    skipSpace (s ++ more) = b :: (t ++ more) := by
  have hs : s.dropWhile isSpace = b :: t := h
  rw [skipSpace, dropWhile_extend (by rw [hs]; exact List.cons_ne_nil b t), hs, List.cons_append]

theorem skipSpace_eq_nil_iff : skipSpace s = [] ↔ Blank s := by
  have hspace : ∀ c : UInt8, isSpace c = true ↔ c = 0x20 ∨ c = 0x09 ∨ c = 0x0a ∨ c = 0x0d := by
    intro c
    simp [isSpace, or_assoc]
  simp only [skipSpace, List.dropWhile_eq_nil_iff, Blank, hspace]

theorem blank_append_iff : Blank (s ++ t) ↔ Blank s ∧ Blank t := List.forall_mem_append

/-! ## Words and strings -/

theorem skipWord_extend {word : Bytes} (h : skipWord word s = some t) (more : Bytes) :
    skipWord word (s ++ more) = some (t ++ more) := by
  induction word generalizing s with
  | nil =>
    obtain rfl := Option.some.inj h
    rfl
  | cons w word ih =>
    cases s with
    | nil => cases h
    | cons b s =>
      rw [skipWord] at h
      rw [List.cons_append, skipWord]
      split at h
      · rename_i hb
        rw [if_pos hb]
        exact ih h
      · cases h

theorem skipEscape_extend (h : skipEscape s = some t) (more : Bytes) :
    skipEscape (s ++ more) = some (t ++ more) := by
  cases s with
  | nil => cases h
  | cons e rest =>
    rw [List.cons_append]
    unfold skipEscape at h ⊢
    simp only at h ⊢
    split at h
    · rename_i he
      rw [if_pos he]
      rcases rest with _ | ⟨d₁, _ | ⟨d₂, _ | ⟨d₃, _ | ⟨d₄, rest⟩⟩⟩⟩
      · cases h
      · cases h
      · cases h
      · cases h
      · simp only [List.cons_append] at h ⊢
        split at h
        · rename_i hhex
          obtain rfl := Option.some.inj h
          rw [if_pos hhex]
        · cases h
    · rename_i he
      rw [if_neg he]
      split at h
      · rename_i hshort
        obtain rfl := Option.some.inj h
        rw [if_pos hshort]
      · cases h

theorem skipString_extend (h : skipString s = some t) (more : Bytes) :
    skipString (s ++ more) = some (t ++ more) := by
  fun_induction skipString s with
  | case1 => cases h
  | case2 rest =>
    obtain rfl := Option.some.inj h
    rw [List.cons_append, skipString, if_pos rfl]
  | case3 rest rest' hs _ _ ih =>
    rw [List.cons_append, skipString_escape (skipEscape_extend hs more)]
    exact ih h
  | case4 => cases h
  | case5 => cases h
  | case6 b rest hq hb hc ih =>
    rw [List.cons_append, skipString, if_neg hq, if_neg hb, if_neg hc]
    exact ih h

/-! ## Strings that are decoded -/

theorem codeUnit?_extend {n : Nat} (h : codeUnit? s = some (n, t)) (more : Bytes) :
    codeUnit? (s ++ more) = some (n, t ++ more) := by
  unfold codeUnit? at h
  split at h
  · obtain ⟨m, hm, h⟩ := Option.bind_eq_some_iff.1 h
    cases h
    simp only [List.cons_append, codeUnit?, hm]
    rfl
  · cases h

theorem unicodeEscape_extend {c : Char} (h : unicodeEscape s = some (c, t)) (more : Bytes) :
    unicodeEscape (s ++ more) = some (c, t ++ more) := by
  unfold unicodeEscape at h
  split at h
  · cases h
  · rename_i n rest hn
    simp only [unicodeEscape, codeUnit?_extend hn more]
    split at h
    · rename_i hone
      cases h
      rw [if_pos hone]
    · rename_i hone
      rw [if_neg hone]
      split at h
      · cases h
      · rename_i hhigh
        rw [if_neg hhigh]
        split at h
        · split at h
          · rename_i m rest'' hm
            simp only [List.cons_append, codeUnit?_extend hm more]
            split at h
            · rename_i hlow
              obtain ⟨rfl, rfl⟩ := Prod.mk.inj (Option.some.inj h)
              rw [if_pos hlow]
            · cases h
          · cases h
        · cases h

theorem readEscape_extend {c : Char} (h : readEscape s = some (c, t)) (more : Bytes) :
    readEscape (s ++ more) = some (c, t ++ more) := by
  unfold readEscape at h
  split at h
  · cases h
  · rename_i e rest
    rw [List.cons_append, readEscape]
    split at h
    · rename_i he
      rw [if_pos he]
      exact unicodeEscape_extend h more
    · rename_i he
      obtain ⟨c', hc, h⟩ := Option.map_eq_some_iff.1 h
      cases h
      rw [if_neg he, hc, Option.map_some]

theorem readOctets_extend {acc acc' : Bytes} (h : readOctets acc s = some (acc', t))
    (more : Bytes) : readOctets acc (s ++ more) = some (acc', t ++ more) := by
  fun_induction readOctets acc s with
  | case1 => cases h
  | case2 acc rest =>
    cases h
    rw [List.cons_append, readOctets, if_pos rfl]
  | case3 acc rest c rest' hs _ _ ih =>
    rw [List.cons_append, readOctets_escape (readEscape_extend hs more)]
    exact ih h
  | case4 => cases h
  | case5 => cases h
  | case6 acc b rest hq hb hc ih =>
    rw [List.cons_append, readOctets, if_neg hq, if_neg hb, if_neg hc]
    exact ih h

theorem readString_extend {text : String} (h : readString s = some (text, t)) (more : Bytes) :
    readString (s ++ more) = some (text, t ++ more) := by
  unfold readString at h
  split at h
  · rename_i acc rest hacc
    split at h
    · rename_i text' htext
      cases h
      simp only [readString, readOctets_extend hacc more, htext]
    · cases h
  · cases h

/-! ## Numbers -/

theorem skipDigits1_extend (h : skipDigits1 s = some t) (ht : t ≠ []) (more : Bytes) :
    skipDigits1 (s ++ more) = some (t ++ more) := by
  unfold skipDigits1 at h
  split at h
  · cases h
  · split at h
    · rename_i hd
      obtain rfl := Option.some.inj h
      rw [List.cons_append, skipDigits1, if_pos hd, dropWhile_extend ht]
    · cases h

theorem skipSign_extend (hs : s ≠ []) (more : Bytes) :
    skipSign (s ++ more) = skipSign s ++ more := by
  cases s with
  | nil => exact absurd rfl hs
  | cons b s =>
    rw [List.cons_append, skipSign, skipSign]
    split <;> rfl

theorem skipExponent_extend (h : skipExponent s = some t) (ht : t ≠ []) (more : Bytes) :
    skipExponent (s ++ more) = some (t ++ more) := by
  unfold skipExponent at h
  split at h
  · rename_i b rest
    rw [List.cons_append, skipExponent]
    split at h
    · rename_i hb
      have hrest : rest ≠ [] := by
        rintro rfl
        cases h
      rw [if_pos hb, skipSign_extend hrest]
      exact skipDigits1_extend h ht more
    · rename_i hb
      obtain rfl := Option.some.inj h
      rw [if_neg hb, List.cons_append]
  · -- nothing would be left
    exact absurd (Option.some.inj h).symm ht

theorem skipFraction_extend (h : skipFraction s = some t) (ht : t ≠ []) (more : Bytes) :
    skipFraction (s ++ more) = some (t ++ more) := by
  unfold skipFraction at h
  split at h
  · rename_i b rest
    rw [List.cons_append, skipFraction]
    split at h
    · rename_i hb
      rw [if_pos hb]
      split at h
      · rename_i rest' hd
        have hrest' : rest' ≠ [] := by
          rintro rfl
          exact ht (Option.some.inj h).symm
        simp only [skipDigits1_extend hd hrest' more]
        exact skipExponent_extend h ht more
      · cases h
    · rename_i hb
      rw [if_neg hb, ← List.cons_append]
      exact skipExponent_extend h ht more
  · exact absurd (Option.some.inj h).symm ht

theorem skipNumber_extend (h : skipNumber s = some t) (ht : t ≠ []) (more : Bytes) :
    skipNumber (s ++ more) = some (t ++ more) := by
  unfold skipNumber at h
  split at h
  · cases h
  · rename_i d rest
    rw [List.cons_append]
    unfold skipNumber
    simp only
    split at h
    · rename_i hd
      rw [if_pos hd]
      split at h
      · rename_i e rest'
        split at h
        · cases h
        · rename_i he
          simp only [List.cons_append, if_neg he]
          exact skipFraction_extend h ht more
      · exact absurd (Option.some.inj h).symm ht
    · rename_i hd
      rw [if_neg hd]
      split at h
      · rename_i hdigit
        have hrest : rest.dropWhile isDigit ≠ [] := by
          intro hnil
          rw [hnil] at h
          exact ht (Option.some.inj h).symm
        rw [if_pos hdigit, dropWhile_extend hrest]
        exact skipFraction_extend h ht more
      · cases h

theorem skipScalar_extend (h : skipScalar s = some t) (ht : t ≠ []) (more : Bytes) :
    skipScalar (s ++ more) = some (t ++ more) := by
  unfold skipScalar at h
  split at h
  · cases h
  · rename_i b rest
    rw [List.cons_append, skipScalar]
    split at h
    · rename_i hb
      rw [if_pos hb]
      exact skipString_extend h more
    · rename_i hquote
      rw [if_neg hquote]
      split at h
      · rename_i hb
        rw [if_pos hb]
        exact skipWord_extend h more
      · rename_i hnull
        rw [if_neg hnull]
        split at h
        · rename_i hb
          rw [if_pos hb]
          exact skipWord_extend h more
        · rename_i htrue
          rw [if_neg htrue]
          split at h
          · rename_i hb
            rw [if_pos hb]
            exact skipWord_extend h more
          · rename_i hfalse
            rw [if_neg hfalse]
            split at h
            · rename_i hb
              rw [if_pos hb]
              exact skipNumber_extend h ht more
            · rename_i hminus
              rw [if_neg hminus, ← List.cons_append]
              exact skipNumber_extend h ht more

/-! ## Steps -/

section

variable {opened outer : List Bracket} {bracket : Bracket} {c : Cursor}

theorem enter_extend (h : enter bracket opened s = some c) (more : Bytes) :
    enter bracket opened (s ++ more) = some (c.1, c.2.1, c.2.2 ++ more) := by
  cases hs : skipSpace s with
  | nil =>
    unfold enter at h
    rw [hs] at h
    cases bracket <;> cases h
  | cons b rest =>
    unfold enter at h ⊢
    rw [hs] at h
    rw [skipSpace_extend hs more]
    cases bracket with
    | array | object =>
      simp only at h ⊢
      split at h
      · rename_i hb
        obtain rfl := Option.some.inj h
        rw [if_pos hb]
      · rename_i hb
        obtain rfl := Option.some.inj h
        rw [if_neg hb, List.cons_append]

theorem atValue_extend (h : atValue opened s = some c) (hc : c.2.2 ≠ []) (more : Bytes) :
    atValue opened (s ++ more) = some (c.1, c.2.1, c.2.2 ++ more) := by
  unfold atValue at h
  split at h
  · cases h
  · rename_i b rest hs
    rw [atValue, skipSpace_extend hs more]
    simp only
    split at h
    · rename_i hb
      rw [if_pos hb]
      exact enter_extend h more
    · rename_i harray
      rw [if_neg harray]
      split at h
      · rename_i hb
        rw [if_pos hb]
        exact enter_extend h more
      · rename_i hobject
        obtain ⟨t, ht, rfl⟩ := Option.map_eq_some_iff.1 h
        rw [if_neg hobject, ← List.cons_append, skipScalar_extend ht hc more, Option.map_some]

theorem skipColon_extend (h : skipColon s = some t) (more : Bytes) :
    skipColon (s ++ more) = some (t ++ more) := by
  unfold skipColon at h
  split at h
  · cases h
  · rename_i b rest hs
    rw [skipColon, skipSpace_extend hs more]
    simp only
    split at h
    · rename_i hb
      obtain rfl := Option.some.inj h
      rw [if_pos hb]
    · cases h

theorem atKey_extend (h : atKey opened s = some c) (more : Bytes) :
    atKey opened (s ++ more) = some (c.1, c.2.1, c.2.2 ++ more) := by
  unfold atKey at h
  split at h
  · cases h
  · rename_i b rest hs
    rw [atKey, skipSpace_extend hs more]
    simp only
    split at h
    · rename_i hb
      rw [if_pos hb]
      split at h
      · rename_i t ht
        obtain ⟨t', ht', rfl⟩ := Option.map_eq_some_iff.1 h
        simp only [skipString_extend ht more, skipColon_extend ht' more, Option.map_some]
      · cases h
    · cases h

theorem atComma_extend (h : atComma bracket outer s = some c) (more : Bytes) :
    atComma bracket outer (s ++ more) = some (c.1, c.2.1, c.2.2 ++ more) := by
  cases hs : skipSpace s with
  | nil =>
    unfold atComma at h
    rw [hs] at h
    cases bracket <;> cases h
  | cons b rest =>
    unfold atComma at h ⊢
    rw [hs] at h
    rw [skipSpace_extend hs more]
    cases bracket with
    | array | object =>
      simp only at h ⊢
      split at h
      · rename_i hb
        obtain rfl := Option.some.inj h
        rw [if_pos hb]
      · rename_i hcomma
        rw [if_neg hcomma]
        split at h
        · rename_i hb
          obtain rfl := Option.some.inj h
          rw [if_pos hb]
        · cases h

end

/-! ## Values -/

/-- **Values with something behind them** end where they ended. -/
theorem skipOpen_extend {place : Place} {opened : List Bracket}
    (h : skipOpen place opened s = some t) (ht : t ≠ []) (more : Bytes) :
    skipOpen place opened (s ++ more) = some (t ++ more) := by
  -- on the steps of the reader: none of them comes to the end of the text
  have hleft : ∀ {c : Cursor}, skipOpen c.1 c.2.1 c.2.2 = some t → c.2.2 ≠ [] := by
    intro c hc hnil
    have hlen := length_le_of_skipOpen hc
    rw [hnil, List.length_nil, Nat.le_zero, List.length_eq_zero_iff] at hlen
    exact ht hlen
  fun_induction skipOpen place opened s with
  | case1 =>
    obtain rfl := Option.some.inj h
    rw [skipOpen]
  | case2 bracket outer s c hc _ ih =>
    rw [skipOpen_behind_eq, atComma_extend hc more, Option.bind_some]
    exact ih h
  | case3 => cases h
  | case4 opened s c hc _ ih =>
    rw [skipOpen_value_eq, atValue_extend hc (hleft h) more, Option.bind_some]
    exact ih h
  | case5 => cases h
  | case6 opened s c hc _ ih =>
    rw [skipOpen_key_eq, atKey_extend hc more, Option.bind_some]
    exact ih h
  | case7 => cases h

theorem skipValue_extend (h : skipValue s = some t) (ht : t ≠ []) (more : Bytes) :
    skipValue (s ++ more) = some (t ++ more) :=
  skipOpen_extend h ht more

end Replica.Json
