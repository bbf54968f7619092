import Replica.Proofs.Toml.StringBodies
import Replica.Toml.Reader

/-!
# Strings and keys are read as they were written

* `Form.Holds`, `holds_formOf`, `holds_keyFormOf`: the form that is chosen can hold the text;
* `text_basic`, `text_literal`, `text_basicLines`, `text_literalLines`: a text in each of the forms;
* **`text_stringText`**: a string is read as it was written, in front of anything but a quote;
* **`simpleKey_keyText`**: so is a key, in front of anything that does not go on with it.
-/

namespace Replica.Toml

/-! ## The forms -/

/-- The form can hold the text. The two basic forms can hold every text. -/
def Form.Holds : Form → List Char → Prop
  | .basic, _ => True
  | .literal, cs => cs ≠ [] ∧ ∀ c ∈ cs, inLiteral c = true
  | .basicLines, _ => True
  | .literalLines, cs => longestRun '\'' 0 cs ≤ 2 ∧ ∀ c ∈ cs, isControl c = false

theorem not_mem_of_longestRun {x : Char} {run : Nat} {cs : List Char}
    (h : longestRun x run cs = 0) : x ∉ cs := by
  induction cs generalizing run with
  | nil => simp
  | cons c cs ih =>
    by_cases hc : c = x
    · subst hc
      rw [longestRun_cons_self] at h
      have := le_longestRun c (run + 1) cs
      omega
    · rw [longestRun_cons_of_ne hc] at h
      have hzero : longestRun x 0 cs = 0 := by omega
      simp [ih hzero, Ne.symm hc]

theorem holds_literal {cs : List Char} (hne : cs ≠ []) (hc : cs.any isControl = false)
    (hq : '\'' ∉ cs) (hl : '\n' ∉ cs) : Form.literal.Holds cs := by
  refine ⟨hne, fun c hm => inLiteral_of_not_isControl ?_ ?_ ?_⟩
  · simpa using List.any_eq_false.1 hc c hm
  · rintro rfl
    exact hq hm
  · rintro rfl
    exact hl hm

theorem holds_formOf (cs : List Char) : (formOf cs).Holds cs := by
  unfold formOf
  dsimp only
  split
  case isTrue => trivial
  case isFalse hb =>
  split
  case isTrue h =>
    simp only [Bool.and_eq_true, Bool.not_eq_true', beq_iff_eq, List.contains_eq_mem,
      decide_eq_false_iff_not] at h
    refine holds_literal ?_ h.1.1 (not_mem_of_longestRun h.1.2) h.2
    rintro rfl
    exact hb rfl
  split
  case isTrue => trivial
  split
  case isTrue h =>
    simp only [Bool.and_eq_true, Bool.not_eq_true', decide_eq_true_eq] at h
    exact ⟨h.2, fun c hm => by simpa using List.any_eq_false.1 h.1 c hm⟩
  split <;> trivial

theorem holds_keyFormOf (cs : List Char) : (keyFormOf cs).Holds cs := by
  unfold keyFormOf
  dsimp only
  split
  case isTrue => trivial
  case isFalse hb =>
  split
  case isTrue h =>
    simp only [Bool.and_eq_true, Bool.not_eq_true', List.contains_eq_mem,
      decide_eq_false_iff_not] at h
    refine holds_literal ?_ h.1.1 h.2 h.1.2
    rintro rfl
    exact hb rfl
  case isFalse => trivial

theorem keyFormOf_eq (cs : List Char) : keyFormOf cs = .basic ∨ keyFormOf cs = .literal := by
  unfold keyFormOf
  dsimp only
  split
  · exact .inl rfl
  · split
    · exact .inr rfl
    · exact .inl rfl

/-! ## Strings -/

theorem singleLine_basic (cs rest : List Char) :
    singleLine (writeForm .basic cs ++ rest) = some (String.ofList cs, rest) := by
  simp [writeForm, singleLine, basicBody_basicChars, asString]

theorem singleLine_literal {cs : List Char} (h : Form.literal.Holds cs) (rest : List Char) :
    singleLine (writeForm .literal cs ++ rest) = some (String.ofList cs, rest) := by
  simp [writeForm, singleLine, literalBody_append h.2, asString]

theorem text_eq_singleLine {q : Char} {s : List Char} (hq : q = '"' ∨ q = '\'')
    (h : ∀ t, s ≠ q :: q :: t) : text (q :: s) = singleLine (q :: s) := by
  unfold text
  split
  · rename_i heq
    cases heq
    exact absurd rfl (h _)
  · rename_i heq
    cases heq
    exact absurd rfl (h _)
  · rfl

theorem text_basic (cs : List Char) {rest : List Char} (hr : rest.head? ≠ some '"') :
    text (writeForm .basic cs ++ rest) = some (String.ofList cs, rest) := by
  rw [← singleLine_basic cs rest]
  have hopen : ∀ t, basicChars false 0 cs ++ '"' :: rest ≠ '"' :: '"' :: t := by
    intro t e
    cases cs with
    | nil => cases e; exact hr rfl
    | cons c cs =>
      by_cases hc : c = '"'
      · rw [hc, basicChars_quote_escaped (by simp)] at e
        cases e
      · obtain ⟨d, u, hu, hd⟩ := (stands_escaped false hc).eq_cons
        rw [basicChars_cons_of_ne _ _ hc, hu] at e
        exact hd (List.cons.inj e).1
  simpa [writeForm] using text_eq_singleLine (.inl rfl) hopen

theorem text_literal {cs : List Char} (h : Form.literal.Holds cs) (rest : List Char) :
    text (writeForm .literal cs ++ rest) = some (String.ofList cs, rest) := by
  rw [← singleLine_literal h rest]
  have hopen : ∀ t, cs ++ '\'' :: rest ≠ '\'' :: '\'' :: t := by
    intro t e
    cases cs with
    | nil => exact h.1 rfl
    | cons c cs => exact ne_of_inLiteral (h.2 c List.mem_cons_self) (List.cons.inj e).1
  simpa [writeForm] using text_eq_singleLine (.inr rfl) hopen

theorem skipFirstBreak_of_ne {c : Char} (hn : c ≠ '\n') (hr : c ≠ '\r') (s : List Char) :
    skipFirstBreak (c :: s) = c :: s := by
  have hnone : newline (c :: s) = none := by
    unfold newline
    split
    · rename_i heq
      exact absurd (List.cons.inj heq).1 hn
    · rename_i heq
      exact absurd (List.cons.inj heq).1 hr
    · rfl
  rw [skipFirstBreak, hnone]
  rfl

theorem skipFirstBreak_start {cs body : List Char}
    (h : '\n' ∉ cs → ∃ c s, body = c :: s ∧ c ≠ '\n' ∧ c ≠ '\r') :
    skipFirstBreak ((if cs.contains '\n' then ['\n'] else []) ++ body) = body := by
  split
  · rfl
  · rename_i hl
    obtain ⟨c, s, rfl, hn, hr⟩ := h (by simpa using hl)
    exact skipFirstBreak_of_ne hn hr s

theorem text_basicLines (cs : List Char) {rest : List Char} (hr : rest.head? ≠ some '"') :
    text (writeForm .basicLines cs ++ rest) = some (String.ofList cs, rest) := by
  have hstart : '\n' ∉ cs → ∃ c s,
      basicChars true 0 cs ++ '"' :: '"' :: '"' :: rest = c :: s ∧ c ≠ '\n' ∧ c ≠ '\r' := by
    intro hl
    cases cs with
    | nil => exact ⟨'"', _, rfl, by decide, by decide⟩
    | cons c cs =>
      by_cases hc : c = '"'
      · subst hc
        exact ⟨'"', _, rfl, by decide, by decide⟩
      · have hstands := stands_escaped true hc
        rw [basicChars_cons_of_ne _ _ hc]
        generalize escaped true c = t at hstands ⊢
        cases hstands with
        | plain h =>
          refine ⟨c, _, rfl, fun e => ?_, fun e => ?_⟩
          · exact hl (e ▸ List.mem_cons_self)
          · subst e
            exact absurd h (by decide)
        | lineFeed _ e => exact absurd (e ▸ List.mem_cons_self) hl
        | escape e _ => exact ⟨'\\', _, rfl, by decide, by decide⟩
  have hbody := basicLines_basicChars (Nat.zero_le 2) cs hr
  simp only [writeForm, List.append_assoc, List.cons_append, List.nil_append, text,
    skipFirstBreak_start hstart, hbody]
  rfl

theorem text_literalLines {cs rest : List Char} (h : Form.literalLines.Holds cs)
    (hr : rest.head? ≠ some '\'') :
    text (writeForm .literalLines cs ++ rest) = some (String.ofList cs, rest) := by
  have hstart : '\n' ∉ cs → ∃ c s,
      cs ++ '\'' :: '\'' :: '\'' :: rest = c :: s ∧ c ≠ '\n' ∧ c ≠ '\r' := by
    intro hl
    cases cs with
    | nil => exact ⟨'\'', _, rfl, by decide, by decide⟩
    | cons c cs =>
      refine ⟨c, _, rfl, fun e => ?_, fun e => ?_⟩
      · exact hl (e ▸ List.mem_cons_self)
      · subst e
        exact absurd (h.2 _ List.mem_cons_self) (by decide)
  have hbody := literalLines_append h.1 h.2 hr
  simp only [writeForm, List.append_assoc, List.cons_append, List.nil_append, text,
    skipFirstBreak_start hstart, hbody]
  rfl

/-- **A string is read as it was written**, whatever form it was given. -/
theorem text_stringText (s : String) {rest : List Char} (hd : rest.head? ≠ some '"')
    (hs : rest.head? ≠ some '\'') : text (stringText s ++ rest) = some (s, rest) := by
  have h := holds_formOf s.toList
  have hform : text (writeForm (formOf s.toList) s.toList ++ rest) =
      some (String.ofList s.toList, rest) := by
    cases hf : formOf s.toList with
    | basic => exact text_basic _ hd
    | literal => exact text_literal (hf ▸ h) rest
    | basicLines => exact text_basicLines _ hd
    | literalLines => exact text_literalLines (hf ▸ h) hs
  rwa [String.ofList_toList] at hform

/-! ## Keys -/

theorem takeWhile_append_of_head {p : Char → Bool} {cs rest : List Char}
    (h : ∀ c ∈ cs, p c = true) (hr : ∀ c ∈ rest.head?, p c = false) :
    (cs ++ rest).takeWhile p = cs ∧ (cs ++ rest).dropWhile p = rest := by
  have hnil : rest.takeWhile p = [] ∧ rest.dropWhile p = rest := by
    cases rest with
    | nil => exact ⟨rfl, rfl⟩
    | cons c rest => simp [hr c rfl]
  rw [List.takeWhile_append_of_pos h, List.dropWhile_append_of_pos h, hnil.1, hnil.2,
    List.append_nil]
  exact ⟨rfl, rfl⟩

theorem keyText_eq_cons (s : String) :
    ∃ c t, keyText s = c :: t ∧ (c = '"' ∨ c = '\'' ∨ inBareKey c = true) := by
  unfold keyText
  dsimp only
  split
  · rename_i h
    simp only [Bool.and_eq_true, Bool.not_eq_true', List.isEmpty_eq_false_iff, List.all_eq_true]
      at h
    obtain ⟨c, t, ht⟩ := List.exists_cons_of_ne_nil h.1
    exact ⟨c, t, ht, .inr (.inr (h.2 c (ht ▸ List.mem_cons_self)))⟩
  · rcases keyFormOf_eq s.toList with hf | hf
    · exact ⟨'"', _, by rw [hf]; rfl, .inl rfl⟩
    · exact ⟨'\'', _, by rw [hf]; rfl, .inr (.inl rfl)⟩

theorem simpleKey_bare {cs rest : List Char} (hne : cs ≠ []) (h : ∀ c ∈ cs, inBareKey c = true)
    (hr : ∀ c ∈ rest.head?, inBareKey c = false) :
    simpleKey (cs ++ rest) = some (String.ofList cs, rest) := by
  obtain ⟨htake, hdrop⟩ := takeWhile_append_of_head h hr
  unfold simpleKey
  split
  · rename_i heq
    obtain ⟨c, t, rfl⟩ := List.exists_cons_of_ne_nil hne
    cases heq
    exact absurd (h '"' List.mem_cons_self) (by decide)
  · rename_i heq
    obtain ⟨c, t, rfl⟩ := List.exists_cons_of_ne_nil hne
    cases heq
    exact absurd (h '\'' List.mem_cons_self) (by decide)
  · simp [htake, hdrop, hne]

/-- **A key is read as it was written.** -/
theorem simpleKey_keyText (s : String) {rest : List Char}
    (hr : ∀ c ∈ rest.head?, inBareKey c = false) :
    simpleKey (keyText s ++ rest) = some (s, rest) := by
  have h := holds_keyFormOf s.toList
  have hkey : simpleKey (keyText s ++ rest) = some (String.ofList s.toList, rest) := by
    unfold keyText
    dsimp only
    split
    · rename_i hbare
      simp only [Bool.and_eq_true, Bool.not_eq_true', List.isEmpty_eq_false_iff,
        List.all_eq_true] at hbare
      exact simpleKey_bare hbare.1 hbare.2 hr
    · rcases keyFormOf_eq s.toList with hf | hf
      · rw [hf]
        exact singleLine_basic _ _
      · rw [hf] at h ⊢
        exact singleLine_literal h _
  rwa [String.ofList_toList] at hkey

end Replica.Toml
