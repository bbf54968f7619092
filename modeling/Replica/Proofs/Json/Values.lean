import Mathlib.Data.List.Basic
import Replica.Proofs.Json.Strings

/-!
# Values are skipped

Every way to write a value is skipped up to its end, however deep arrays and objects are nested.

* `Stops`: what may stand behind a value;
* `skipNumber_text`: a number in any spelling;
* `skipOpen_value_eq`, `skipOpen_key_eq`, `skipOpen_behind_eq`: one step of the reader with its open
  brackets;
* **`skipOpen_writes`**, `skipOpen_items`, `skipOpen_members`: a value, and what stands in an array
  or an object;
* **`skipValue_writes`**.
-/

namespace Replica.Json

variable {s rest : Bytes} {w : Bytes} {b : UInt8} {opened : List Bracket}

/-! ## Blanks -/

theorem skipSpace_append (hw : Blank w) (s : Bytes) : skipSpace (w ++ s) = skipSpace s := by
  induction w with
  | nil => rfl
  | cons b w ih =>
    rw [List.cons_append, skipSpace, List.dropWhile_cons_of_pos (hw.isSpace List.mem_cons_self)]
    exact ih fun b' hb' => hw b' (List.mem_cons_of_mem _ hb')

theorem skipSpace_cons (hb : isSpace b = false) (s : Bytes) : skipSpace (b :: s) = b :: s :=
  List.dropWhile_cons_of_neg (by simp [hb])

theorem skipSpace_append_cons (hw : Blank w) (hb : isSpace b = false) (s : Bytes) :
    skipSpace (w ++ b :: s) = b :: s := by
  rw [skipSpace_append hw, skipSpace_cons hb]

/-- **What may stand behind a value**: nothing, a blank, a comma or a closing bracket. -/
def Stops (rest : Bytes) : Prop :=
  ∀ b ∈ rest.head?, isSpace b = true ∨ b = 0x2c ∨ b = 0x5d ∨ b = 0x7d

theorem stops_append (hw : Blank w) (h : b = 0x2c ∨ b = 0x5d ∨ b = 0x7d) (s : Bytes) :
    Stops (w ++ b :: s) := by
  intro b' hb'
  cases w with
  | nil =>
    obtain rfl : b = b' := by simpa using hb'
    exact .inr h
  | cons c w =>
    obtain rfl : c = b' := by simpa using hb'
    exact .inl (hw.isSpace List.mem_cons_self)

/-! ## Numbers -/

/-- The next octet is no digit. -/
def NoDigit (rest : Bytes) : Prop := ∀ b ∈ rest.head?, isDigit b = false

theorem Stops.not_number (h : Stops rest) (hb : b ∈ rest.head?) :
    isDigit b = false ∧ b ≠ 0x2e ∧ b ≠ 0x65 ∧ b ≠ 0x45 := by
  have hspace : isSpace b = true → b = 0x20 ∨ b = 0x09 ∨ b = 0x0a ∨ b = 0x0d := by
    simp [isSpace, or_assoc]
  rcases h b hb with hs | rfl | rfl | rfl
  · rcases hspace hs with rfl | rfl | rfl | rfl <;> decide
  all_goals decide

theorem dropWhile_digitsText {digits : List Nat} (h : ∀ d ∈ digits, d < 10) (hr : NoDigit rest) :
    (digitsText digits ++ rest).dropWhile isDigit = rest := by
  induction digits with
  | nil =>
    cases rest with
    | nil => rfl
    | cons b rest => exact List.dropWhile_cons_of_neg (by simp [hr b rfl])
  | cons d digits ih =>
    obtain ⟨b, ht, hb, -⟩ := digitsText_cons (h d List.mem_cons_self) digits
    rw [ht, List.cons_append, List.dropWhile_cons_of_pos hb]
    exact ih fun d' hd' => h d' (List.mem_cons_of_mem _ hd')

theorem skipDigits1_digitsText {digits : List Nat} (hne : digits ≠ [])
    (h : ∀ d ∈ digits, d < 10) (hr : NoDigit rest) :
    skipDigits1 (digitsText digits ++ rest) = some rest := by
  cases digits with
  | nil => exact absurd rfl hne
  | cons d digits =>
    obtain ⟨b, ht, hb, -⟩ := digitsText_cons (h d List.mem_cons_self) digits
    rw [ht, List.cons_append, skipDigits1, if_pos hb,
      dropWhile_digitsText (fun d' hd' => h d' (List.mem_cons_of_mem _ hd')) hr]

theorem skipSign_digitsText {digits : List Nat} (hne : digits ≠ []) (h : ∀ d ∈ digits, d < 10) :
    skipSign (digitsText digits ++ rest) = digitsText digits ++ rest := by
  cases digits with
  | nil => exact absurd rfl hne
  | cons d digits =>
    have hall : ∀ d < 10, ¬(UInt8.ofNat (0x30 + d) = 0x2b ∨ UInt8.ofNat (0x30 + d) = 0x2d) := by
      decide
    exact if_neg (hall d (h d List.mem_cons_self))

theorem skipExponent_text {e : SpelledExponent} (hne : e.digits ≠ [])
    (h : ∀ d ∈ e.digits, d < 10) (hr : NoDigit rest) :
    skipExponent (e.text ++ rest) = some rest := by
  have hmark : (if e.capital then (0x45 : UInt8) else 0x65) = 0x65 ∨
      (if e.capital then (0x45 : UInt8) else 0x65) = 0x45 := by
    cases e.capital with
    | true => exact .inr rfl
    | false => exact .inl rfl
  rw [SpelledExponent.text, List.append_assoc, List.cons_append, skipExponent, if_pos hmark]
  have hdigits := skipDigits1_digitsText hne h hr
  rcases hs : e.sign? with _ | _ | _
  · rw [List.nil_append, skipSign_digitsText hne h]
    exact hdigits
  · exact hdigits
  · exact hdigits

namespace Spelling.Legal

variable {n : Spelling}

theorem skipExponent_exponentText (h : n.Legal) (hr : Stops rest) :
    skipExponent (n.exponentText ++ rest) = some rest := by
  cases he : n.exponent? with
  | none =>
    rw [exponentText, he]
    cases rest with
    | nil => rfl
    | cons b rest =>
      obtain ⟨-, -, hsmall, hcapital⟩ := hr.not_number (b := b) rfl
      exact if_neg (not_or.2 ⟨hsmall, hcapital⟩)
  | some e =>
    rw [exponentText, he]
    exact skipExponent_text (h.exponent_ne_nil e he) (h.exponent_lt e he)
      fun b hb => (hr.not_number hb).1

theorem head_exponentText (hr : Stops rest) (hb : b ∈ (n.exponentText ++ rest).head?) :
    isDigit b = false ∧ b ≠ 0x2e := by
  cases he : n.exponent? with
  | none =>
    rw [exponentText, he] at hb
    exact ⟨(hr.not_number hb).1, (hr.not_number hb).2.1⟩
  | some e =>
    have hfirst : b = if e.capital then 0x45 else 0x65 := by
      rw [exponentText, he] at hb
      exact (Option.some.inj hb).symm
    rw [hfirst]
    cases e.capital <;> decide

theorem skipFraction_text (h : n.Legal) (hr : Stops rest) :
    skipFraction (n.fractionText ++ (n.exponentText ++ rest)) = some rest := by
  have hexponent := h.skipExponent_exponentText hr
  have hhead := fun b => head_exponentText (n := n) hr (b := b)
  by_cases hf : n.fraction = []
  · rw [fractionText, if_pos hf, List.nil_append]
    generalize n.exponentText ++ rest = t at hexponent hhead
    cases t with
    | nil => exact hexponent
    | cons b t =>
      rw [skipFraction, if_neg (hhead b rfl).2]
      exact hexponent
  · rw [fractionText, if_neg hf, List.cons_append, skipFraction, if_pos rfl,
      skipDigits1_digitsText hf h.fraction_lt fun b hb => (hhead b hb).1]
    exact hexponent

theorem noDigit_fractionText (hr : Stops rest) :
    NoDigit (n.fractionText ++ (n.exponentText ++ rest)) := by
  intro b hb
  by_cases hf : n.fraction = []
  · rw [fractionText, if_pos hf, List.nil_append] at hb
    exact (head_exponentText hr hb).1
  · rw [fractionText, if_neg hf] at hb
    obtain rfl : 0x2e = b := Option.some.inj hb
    rfl

theorem skipNumber_text (h : n.Legal) (hr : Stops rest) :
    skipNumber (digitsText n.whole ++ (n.fractionText ++ (n.exponentText ++ rest))) =
      some rest := by
  have hfraction := h.skipFraction_text hr
  have hnone := noDigit_fractionText (n := n) hr
  generalize n.fractionText ++ (n.exponentText ++ rest) = t at hfraction hnone
  cases hw : n.whole with
  | nil => exact absurd hw h.whole_ne_nil
  | cons d digits =>
    have hlt : ∀ d' ∈ d :: digits, d' < 10 := hw ▸ h.whole_lt
    obtain ⟨b, ht, hb, hzero⟩ := digitsText_cons (hlt d List.mem_cons_self) digits
    rw [ht, List.cons_append]
    unfold skipNumber
    simp only
    by_cases hd : d = 0
    · -- a zero in front is all of the whole part
      have halone : digits = [] := by
        have := h.zero_alone (by rw [hw, hd]; rfl)
        rw [hw] at this
        exact (List.cons.inj this).2
      rw [if_pos (hzero.2 hd), halone]
      cases t with
      | nil => exact hfraction
      | cons c t =>
        have hc : ¬isDigit c = true := by rw [hnone c rfl]; decide
        change (if isDigit c then none else skipFraction (c :: t)) = _
        rw [if_neg hc]
        exact hfraction
    · rw [if_neg (mt hzero.1 hd), if_pos hb,
        dropWhile_digitsText (fun d' hd' => hlt d' (List.mem_cons_of_mem _ hd')) hnone]
      exact hfraction

end Spelling.Legal

theorem skipScalar_number {coefficient exponent : Int} (h : WritesNumber coefficient exponent s)
    (hr : Stops rest) : skipScalar (s ++ rest) = some rest := by
  obtain ⟨hn, -⟩ := h
  rename_i n
  have hnumber := hn.skipNumber_text hr
  rw [Spelling.text, List.append_assoc, List.append_assoc, List.append_assoc]
  generalize n.fractionText ++ (n.exponentText ++ rest) = t at hnumber
  cases n.negative with
  | true => exact hnumber
  | false =>
    cases hw : n.whole with
    | nil => exact absurd hw hn.whole_ne_nil
    | cons d digits =>
      have hall : ∀ d < 10, UInt8.ofNat (0x30 + d) ≠ 0x22 ∧ UInt8.ofNat (0x30 + d) ≠ 0x6e ∧
          UInt8.ofNat (0x30 + d) ≠ 0x74 ∧ UInt8.ofNat (0x30 + d) ≠ 0x66 ∧
          UInt8.ofNat (0x30 + d) ≠ 0x2d := by decide
      obtain ⟨h₁, h₂, h₃, h₄, h₅⟩ := hall d (hn.whole_lt d (by simp [hw]))
      rw [hw] at hnumber
      exact (if_neg h₁).trans ((if_neg h₂).trans ((if_neg h₃).trans ((if_neg h₄).trans
        ((if_neg h₅).trans hnumber))))

/-! ## Steps -/

/-- **One step of the reader** leads to the next place. -/
theorem skipOpen_value_eq (opened : List Bracket) (s : Bytes) :
    skipOpen .value opened s = (atValue opened s).bind fun c => skipOpen c.1 c.2.1 c.2.2 := by
  rw [skipOpen]
  split
  · rename_i c h
    simp only [h, Option.bind_some]
  · rename_i h
    simp only [h, Option.bind_none]

theorem skipOpen_key_eq (opened : List Bracket) (s : Bytes) :
    skipOpen .key opened s = (atKey opened s).bind fun c => skipOpen c.1 c.2.1 c.2.2 := by
  rw [skipOpen]
  split
  · rename_i c h
    simp only [h, Option.bind_some]
  · rename_i h
    simp only [h, Option.bind_none]

theorem skipOpen_behind_eq (bracket : Bracket) (outer : List Bracket) (s : Bytes) :
    skipOpen .behind (bracket :: outer) s =
      (atComma bracket outer s).bind fun c => skipOpen c.1 c.2.1 c.2.2 := by
  rw [skipOpen]
  split
  · rename_i c h
    simp only [h, Option.bind_some]
  · rename_i h
    simp only [h, Option.bind_none]

theorem atValue_scalar (hw : Blank w) (hs : isSpace b = false) (ha : b ≠ 0x5b) (ho : b ≠ 0x7b)
    (h : skipScalar (b :: s) = some rest) :
    atValue opened (w ++ b :: s) = some (.behind, opened, rest) := by
  rw [atValue, skipSpace_append_cons hw hs]
  simp only
  rw [if_neg ha, if_neg ho, h, Option.map_some]

theorem atValue_array (hw : Blank w) (s : Bytes) :
    atValue opened (w ++ 0x5b :: s) = enter .array opened s := by
  rw [atValue, skipSpace_append_cons hw rfl]
  rfl

theorem atValue_object (hw : Blank w) (s : Bytes) :
    atValue opened (w ++ 0x7b :: s) = enter .object opened s := by
  rw [atValue, skipSpace_append_cons hw rfl]
  rfl

theorem enter_array_close (hw : Blank w) (s : Bytes) :
    enter .array opened (w ++ 0x5d :: s) = some (.behind, opened, s) := by
  unfold enter
  rw [skipSpace_append_cons hw rfl]
  rfl

theorem enter_object_close (hw : Blank w) (s : Bytes) :
    enter .object opened (w ++ 0x7d :: s) = some (.behind, opened, s) := by
  unfold enter
  rw [skipSpace_append_cons hw rfl]
  rfl

theorem enter_array_item (hw : Blank w) (hs : isSpace b = false) (hb : b ≠ 0x5d) (s : Bytes) :
    enter .array opened (w ++ b :: s) = some (.value, .array :: opened, b :: s) := by
  unfold enter
  rw [skipSpace_append_cons hw hs]
  exact if_neg hb

theorem enter_object_member (hw : Blank w) (s : Bytes) :
    enter .object opened (w ++ 0x22 :: s) = some (.key, .object :: opened, 0x22 :: s) := by
  unfold enter
  rw [skipSpace_append_cons hw rfl]
  rfl

theorem atComma_next (bracket : Bracket) (outer : List Bracket) (hw : Blank w) (s : Bytes) :
    atComma bracket outer (w ++ 0x2c :: s) =
      some (match bracket with | .array => .value | .object => .key, bracket :: outer, s) := by
  unfold atComma
  rw [skipSpace_append_cons hw rfl]
  cases bracket <;> rfl

theorem atComma_array_close (outer : List Bracket) (hw : Blank w) (s : Bytes) :
    atComma .array outer (w ++ 0x5d :: s) = some (.behind, outer, s) := by
  unfold atComma
  rw [skipSpace_append_cons hw rfl]
  rfl

theorem atComma_object_close (outer : List Bracket) (hw : Blank w) (s : Bytes) :
    atComma .object outer (w ++ 0x7d :: s) = some (.behind, outer, s) := by
  unfold atComma
  rw [skipSpace_append_cons hw rfl]
  rfl

theorem skipColon_append (hw : Blank w) (s : Bytes) : skipColon (w ++ 0x3a :: s) = some s := by
  rw [skipColon, skipSpace_append_cons hw rfl]
  rfl

theorem atKey_writes {name : String} {k w₁ : Bytes} (hw : Blank w) (hk : WritesString name k)
    (hw₁ : Blank w₁) (s : Bytes) :
    atKey opened (w ++ (k ++ (w₁ ++ 0x3a :: s))) = some (.value, opened, s) := by
  obtain ⟨h⟩ := hk
  rename_i body
  have hskip := skipString_writes h (w₁ ++ 0x3a :: s)
  rw [List.cons_append, List.cons_append, List.append_assoc, List.singleton_append, atKey,
    skipSpace_append_cons hw rfl]
  simp only [if_true, hskip, skipColon_append hw₁, Option.map_some]

/-! ## Values -/

theorem WritesItems.eq_append {items : List Value} (h : WritesItems items s) :
    ∃ w b t, s = w ++ b :: t ∧ Blank w ∧ isSpace b = false ∧ b ≠ 0x5d := by
  cases h with
  | last hw h =>
    obtain ⟨b, t, rfl, hs, hb, -⟩ := h.eq_cons
    exact ⟨_, b, _, rfl, hw, hs, hb⟩
  | cons hw h =>
    obtain ⟨b, t, rfl, hs, hb, -⟩ := h.eq_cons
    exact ⟨_, b, _, rfl, hw, hs, hb⟩

theorem WritesMembers.eq_append {members : List (String × Value)} (h : WritesMembers members s) :
    ∃ w t, s = w ++ 0x22 :: t ∧ Blank w := by
  cases h with
  | last hw hk =>
    obtain ⟨-⟩ := hk
    exact ⟨_, _, rfl, hw⟩
  | cons hw hk =>
    obtain ⟨-⟩ := hk
    exact ⟨_, _, rfl, hw⟩

theorem skipOpen_value_append (hw : Blank w) (s : Bytes) :
    skipOpen .value opened (w ++ s) = skipOpen .value opened s := by
  rw [skipOpen_value_eq, skipOpen_value_eq, atValue, atValue, skipSpace_append hw]

theorem skipOpen_key_append (hw : Blank w) (s : Bytes) :
    skipOpen .key opened (w ++ s) = skipOpen .key opened s := by
  rw [skipOpen_key_eq, skipOpen_key_eq, atKey, atKey, skipSpace_append hw]

theorem skipOpen_scalar (hw : Blank w) (hs : isSpace b = false) (ha : b ≠ 0x5b) (ho : b ≠ 0x7b)
    (h : skipScalar (b :: s) = some rest) :
    skipOpen .value opened (w ++ b :: s) = skipOpen .behind opened rest := by
  rw [skipOpen_value_eq, atValue_scalar hw hs ha ho h, Option.bind_some]

mutual

/-- **A written value is skipped**, whatever is open around it. -/
theorem skipOpen_writes {v : Value} {s : Bytes} (h : Writes v s) (opened : List Bracket)
    {w rest : Bytes} (hw : Blank w) (hr : Stops rest) :
    skipOpen .value opened (w ++ (s ++ rest)) = skipOpen .behind opened rest := by
  cases h with
  | null | boolTrue | boolFalse =>
    exact skipOpen_scalar hw rfl (by decide) (by decide) rfl
  | number h =>
    have hskip := skipScalar_number h hr
    obtain ⟨hn, -⟩ := h
    obtain ⟨b, t, ht, hb⟩ := hn.head_cases
    have hother : isOther b = true ∧ b ≠ 0x5b ∧ b ≠ 0x7b := by
      rcases hb with rfl | hb
      · decide
      · refine ⟨isOther_of_isDigit hb, ?_, ?_⟩
        · rintro rfl
          exact absurd hb (by decide)
        · rintro rfl
          exact absurd hb (by decide)
    obtain ⟨-, -, -, -, hs⟩ := ne_of_isOther hother.1
    rw [ht] at hskip ⊢
    exact skipOpen_scalar hw hs hother.2.1 hother.2.2 hskip
  | string h =>
    obtain ⟨h⟩ := h
    rw [List.cons_append, List.cons_append, List.append_assoc]
    exact skipOpen_scalar hw rfl (by decide) (by decide) (skipString_writes h rest)
  | emptyArray hw' =>
    rw [List.cons_append, List.cons_append, List.append_assoc, skipOpen_value_eq,
      atValue_array hw, List.singleton_append, enter_array_close hw', Option.bind_some]
  | array h =>
    obtain ⟨w', b, t, ht, hw', hs, hb⟩ := h.eq_append
    have hitems := skipOpen_items h opened rest
    rw [ht, List.append_assoc, List.cons_append, skipOpen_value_append hw'] at hitems
    rw [List.cons_append, skipOpen_value_eq, atValue_array hw, ht, List.append_assoc,
      List.cons_append, enter_array_item hw' hs hb, Option.bind_some, hitems]
  | emptyObject hw' =>
    rw [List.cons_append, List.cons_append, List.append_assoc, skipOpen_value_eq,
      atValue_object hw, List.singleton_append, enter_object_close hw', Option.bind_some]
  | object h =>
    obtain ⟨w', t, ht, hw'⟩ := h.eq_append
    have hmembers := skipOpen_members h opened rest
    rw [ht, List.append_assoc, List.cons_append, skipOpen_key_append hw'] at hmembers
    rw [List.cons_append, skipOpen_value_eq, atValue_object hw, ht, List.append_assoc,
      List.cons_append, enter_object_member hw', Option.bind_some, hmembers]

theorem skipOpen_items {items : List Value} {s : Bytes} (h : WritesItems items s)
    (opened : List Bracket) (rest : Bytes) :
    skipOpen .value (.array :: opened) (s ++ rest) = skipOpen .behind opened rest := by
  cases h with
  | last hw h hw' =>
    rw [List.append_assoc, List.append_assoc, List.append_assoc, List.singleton_append,
      skipOpen_writes h _ hw (stops_append hw' (.inr (.inl rfl)) rest), skipOpen_behind_eq,
      atComma_array_close _ hw', Option.bind_some]
  | cons hw h hw' ht =>
    rw [List.append_assoc, List.append_assoc, List.append_assoc, List.cons_append,
      skipOpen_writes h _ hw (stops_append hw' (.inl rfl) _), skipOpen_behind_eq,
      atComma_next _ _ hw', Option.bind_some]
    exact skipOpen_items ht opened rest

theorem skipOpen_members {members : List (String × Value)} {s : Bytes}
    (h : WritesMembers members s) (opened : List Bracket) (rest : Bytes) :
    skipOpen .key (.object :: opened) (s ++ rest) = skipOpen .behind opened rest := by
  cases h with
  | last hw hk hw₁ hw₂ h hw' =>
    rw [List.append_assoc, List.append_assoc, List.append_assoc, List.cons_append,
      List.append_assoc, List.append_assoc, List.append_assoc, List.singleton_append,
      skipOpen_key_eq, atKey_writes hw hk hw₁, Option.bind_some,
      skipOpen_writes h _ hw₂ (stops_append hw' (.inr (.inr rfl)) rest), skipOpen_behind_eq,
      atComma_object_close _ hw', Option.bind_some]
  | cons hw hk hw₁ hw₂ h hw' ht =>
    rw [List.append_assoc, List.append_assoc, List.append_assoc, List.cons_append,
      List.append_assoc, List.append_assoc, List.append_assoc, List.cons_append,
      skipOpen_key_eq, atKey_writes hw hk hw₁, Option.bind_some,
      skipOpen_writes h _ hw₂ (stops_append hw' (.inl rfl) _), skipOpen_behind_eq,
      atComma_next _ _ hw', Option.bind_some]
    exact skipOpen_members ht opened rest

end

/-- **A written value is skipped to its end.** -/
theorem skipValue_writes {v : Value} (h : Writes v s) (hw : Blank w) (hr : Stops rest) :
    skipValue (w ++ (s ++ rest)) = some rest := by
  rw [skipValue, skipOpen_writes h [] hw hr, skipOpen]

end Replica.Json
