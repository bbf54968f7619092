import Replica.Toml.Printer
import Replica.Toml.Text

/-!
# The bodies of strings are read as they were written

* `Stands`, `stands_escaped`: how a character that is no quote stands in a basic string;
* **`basicBody_basicChars`**, `literalBody_append`: the bodies of strings on one line;
* `eq_replicate_of_basicChars`, `eq_replicate_of_longestRun`: three quotes in a row are met only
  where nothing but quotes is left of the text;
* **`basicLines_basicChars`**, `literalLines_append`: the bodies of strings of several lines, in
  front of anything but a further quote.
-/

namespace Replica.Toml

/-! ## Classes of characters -/

theorem toNat_ne {c d : Char} (h : c ≠ d) : c.toNat ≠ d.toNat := fun e => h (Char.toNat_inj.1 e)

theorem isControl_eq_false {c : Char} (h : isControl c = false) :
    (0x20 ≤ c.toNat ∧ c.toNat ≠ 0x7f) ∨ c = '\t' ∨ c = '\n' := by
  simp only [isControl, Bool.or_eq_false_iff, Bool.and_eq_false_imp, Bool.and_eq_true,
    decide_eq_true_eq, bne_iff_ne, bne_eq_false_iff_eq, beq_eq_false_iff_ne] at h
  by_cases ht : c = '\t'
  · exact .inr (.inl ht)
  · by_cases hle : c.toNat ≤ 0x1f
    · exact .inr (.inr (h.1 ⟨hle, ht⟩))
    · exact .inl ⟨by omega, h.2⟩

theorem inLiteral_of_not_isControl {c : Char} (hc : isControl c = false) (hq : c ≠ '\'')
    (hl : c ≠ '\n') : inLiteral c = true := by
  have hq : c.toNat ≠ 0x27 := toNat_ne hq
  rcases isControl_eq_false hc with ⟨h, h'⟩ | rfl | rfl
  · simp only [inLiteral, between, isNonAscii, Bool.or_eq_true, Bool.and_eq_true,
      decide_eq_true_eq]
    omega
  · rfl
  · exact absurd rfl hl

theorem inBasic_of_not_isControl {c : Char} (hc : isControl c = false) (hq : c ≠ '"')
    (hb : c ≠ '\\') (hl : c ≠ '\n') : inBasic c = true := by
  have hq : c.toNat ≠ 0x22 := toNat_ne hq
  have hb : c.toNat ≠ 0x5c := toNat_ne hb
  rcases isControl_eq_false hc with ⟨h, h'⟩ | rfl | rfl
  · by_cases hs : c.toNat = 0x20
    · have hs : c = ' ' := Char.toNat_inj.1 hs
      subst hs
      rfl
    · by_cases he : c.toNat = 0x21
      · have he : c = '!' := Char.toNat_inj.1 he
        subst he
        rfl
      · simp only [inBasic, between, isNonAscii, Bool.or_eq_true, Bool.and_eq_true,
          decide_eq_true_eq]
        omega
  · rfl
  · exact absurd rfl hl

theorem ne_of_inBasic {c : Char} (h : inBasic c = true) : c ≠ '"' ∧ c ≠ '\\' := by
  constructor
  · rintro rfl
    exact absurd h (by decide)
  · rintro rfl
    exact absurd h (by decide)

theorem ne_of_inLiteral {c : Char} (h : inLiteral c = true) : c ≠ '\'' := by
  rintro rfl
  exact absurd h (by decide)

/-! ## Escapes -/

theorem hexValue?_capitalDigit {n : Nat} (h : n < 16) :
    Bytes.hexValue? (capitalDigit n) = some n := by
  have all : ∀ n < 16, Bytes.hexValue? (capitalDigit n) = some n := by decide
  exact all n h

theorem escape_codeEscape {c : Char} (h : isControl c = true) (rest : List Char) :
    escape ((codeEscape c).tail ++ rest) = some (c, rest) := by
  have hlt : c.toNat < 0x80 := by
    simp only [isControl, Bool.or_eq_true, Bool.and_eq_true, decide_eq_true_eq, beq_iff_eq] at h
    omega
  have hhigh := hexValue?_capitalDigit (n := c.toNat / 16) (by omega)
  have hlow := hexValue?_capitalDigit (n := c.toNat % 16) (by omega)
  have hzero : Bytes.hexValue? '0' = some 0 := by decide
  have hsum : 16 * (16 * (16 * (16 * 0 + 0) + 0) + c.toNat / 16) + c.toNat % 16 = c.toNat := by
    omega
  have hcode : charOfHex? ['0', '0', capitalDigit (c.toNat / 16), capitalDigit (c.toNat % 16)] =
      some c := by
    simp only [charOfHex?, List.mapM_cons, List.mapM_nil, hzero, hhigh, hlow, Option.bind_eq_bind,
      Option.bind_some, Option.pure_def, List.foldl_cons, List.foldl_nil, hsum]
    have hvalid : c.toNat.isValidChar := c.valid
    rw [if_pos hvalid, Char.ofNat_toNat]
  simp [codeEscape, escape, charByCode, hcode]

/-- **How a character may stand in a basic string**: as itself, or by an escape. -/
inductive Stands (severalLines : Bool) (c : Char) : List Char → Prop
  | plain (h : inBasic c = true) : Stands severalLines c [c]
  | lineFeed (h : severalLines = true) (hc : c = '\n') : Stands severalLines c [c]
  | escape (e : List Char) (h : ∀ rest, Toml.escape (e ++ rest) = some (c, rest)) :
      Stands severalLines c ('\\' :: e)

theorem stands_escaped (severalLines : Bool) {c : Char} (hq : c ≠ '"') :
    Stands severalLines c (escaped severalLines c) := by
  unfold escaped
  split
  case isTrue h => subst h; exact .escape ['b'] fun _ => rfl
  split
  case isTrue h => subst h; exact .escape ['t'] fun _ => rfl
  split
  case isTrue h =>
    subst h
    cases severalLines with
    | true => exact .lineFeed rfl rfl
    | false => exact .escape ['n'] fun _ => rfl
  case isFalse hl =>
  split
  case isTrue h => subst h; exact .escape ['f'] fun _ => rfl
  split
  case isTrue h => subst h; exact .escape ['r'] fun _ => rfl
  split
  case isTrue h => subst h; exact .escape ['\\'] fun _ => rfl
  case isFalse hb =>
  split
  case isTrue h => exact .escape _ (escape_codeEscape h)
  case isFalse h => exact .plain (inBasic_of_not_isControl (Bool.eq_false_iff.2 h) hq hb hl)

theorem Stands.eq_cons {severalLines : Bool} {c : Char} {t : List Char}
    (h : Stands severalLines c t) : ∃ d t', t = d :: t' ∧ d ≠ '"' := by
  cases h with
  | plain h => exact ⟨c, [], rfl, (ne_of_inBasic h).1⟩
  | lineFeed h hc => exact ⟨c, [], rfl, by rw [hc]; decide⟩
  | escape e h => exact ⟨'\\', e, rfl, by decide⟩

theorem basicChars_cons_of_ne (severalLines : Bool) (run : Nat) {c : Char} (hc : c ≠ '"')
    (cs : List Char) : basicChars severalLines run (c :: cs) =
      escaped severalLines c ++ basicChars severalLines 0 cs := if_neg hc

theorem basicChars_quote {run : Nat} (h : run < 2) (cs : List Char) :
    basicChars true run ('"' :: cs) = '"' :: basicChars true (run + 1) cs := by
  rw [basicChars, if_pos rfl, if_pos rfl, if_pos h]

/-- Two quotes in front of a quote, or a string on one line: the quote is escaped. -/
theorem basicChars_quote_escaped {severalLines : Bool} {run : Nat}
    (h : severalLines = true → 2 ≤ run) (cs : List Char) : basicChars severalLines run ('"' :: cs) =
      ['\\', '"'] ++ basicChars severalLines 0 cs := by
  have hlt : ¬ run < (if severalLines then 2 else 0) := by
    split
    · rename_i hl
      exact Nat.not_lt.2 (h hl)
    · exact Nat.not_lt_zero run
  rw [basicChars, if_pos rfl, if_neg hlt]
  rfl

theorem stands_escaped_quote (severalLines : Bool) : Stands severalLines '"' ['\\', '"'] :=
  .escape ['"'] fun _ => rfl

/-! ## Strings on one line -/

theorem basicBody_stands {c : Char} {t : List Char} (h : Stands false c t) (rest : List Char) :
    basicBody (t ++ rest) = consChar c (basicBody rest) := by
  cases h with
  | plain h =>
    have hne := ne_of_inBasic h
    rw [List.singleton_append, basicBody, if_neg hne.1, if_neg hne.2, if_pos h]
  | lineFeed h => cases h
  | escape e h =>
    rw [List.cons_append, basicBody, if_neg (by decide), if_pos rfl]
    split
    · rename_i heq
      cases heq.symm.trans (h rest)
      rfl
    · rename_i heq
      cases heq.symm.trans (h rest)

theorem basicBody_basicChars (run : Nat) (cs rest : List Char) :
    basicBody (basicChars false run cs ++ '"' :: rest) = some (cs, rest) := by
  induction cs generalizing run with
  | nil => rw [basicChars, List.nil_append, basicBody, if_pos rfl]
  | cons c cs ih =>
    by_cases hc : c = '"'
    · subst hc
      rw [basicChars_quote_escaped (by simp), List.append_assoc,
        basicBody_stands (stands_escaped_quote false), ih]
      rfl
    · rw [basicChars_cons_of_ne _ _ hc, List.append_assoc,
        basicBody_stands (stands_escaped false hc), ih]
      rfl

theorem literalBody_append {cs : List Char} (h : ∀ c ∈ cs, inLiteral c = true)
    (rest : List Char) : literalBody (cs ++ '\'' :: rest) = some (cs, rest) := by
  induction cs with
  | nil => rfl
  | cons c cs ih =>
    have hc := h c List.mem_cons_self
    rw [List.cons_append, literalBody, if_neg (ne_of_inLiteral hc), if_pos hc,
      ih fun d hd => h d (List.mem_cons_of_mem _ hd)]
    rfl

/-! ## Closing quotes -/

theorem runLength_of_ne {q d : Char} (h : d ≠ q) (limit : Nat) (s : List Char) :
    runLength q limit (d :: s) = 0 := by
  cases limit with
  | zero => rfl
  | succ limit => exact if_neg h

theorem runLength_eq_zero {q : Char} {s : List Char} (h : s.head? ≠ some q) (limit : Nat) :
    runLength q limit s = 0 := by
  cases s with
  | nil => cases limit <;> rfl
  | cons d s => exact runLength_of_ne (fun e => h (congrArg some e)) limit s

theorem runLength_replicate_append (q : Char) (limit k : Nat) (s : List Char) :
    runLength q limit (List.replicate k q ++ s) = min limit k + runLength q (limit - k) s := by
  induction k generalizing limit with
  | zero => simp
  | succ k ih =>
    cases limit with
    | zero => simp [runLength]
    | succ limit =>
      rw [List.replicate_succ, List.cons_append, runLength, if_pos rfl, ih, Nat.add_sub_add_right]
      omega

theorem longestRun_cons_self (x : Char) (run : Nat) (cs : List Char) :
    longestRun x run (x :: cs) = longestRun x (run + 1) cs := if_pos rfl

theorem longestRun_cons_of_ne {x c : Char} (h : c ≠ x) (run : Nat) (cs : List Char) :
    longestRun x run (c :: cs) = max run (longestRun x 0 cs) := if_neg h

theorem le_longestRun (x : Char) (run : Nat) (cs : List Char) : run ≤ longestRun x run cs := by
  induction cs generalizing run with
  | nil => exact Nat.le_refl _
  | cons c cs ih =>
    by_cases hc : c = x
    · subst hc
      rw [longestRun_cons_self]
      exact Nat.le_trans (Nat.le_succ run) (ih (run + 1))
    · rw [longestRun_cons_of_ne hc]
      exact Nat.le_max_left _ _

/-- Where no more than two quotes follow each other in a text, three in a row belong to its end. -/
theorem eq_replicate_of_longestRun {q : Char} {run limit : Nat} {cs s : List Char}
    (hrun : longestRun q run cs ≤ 2) (hlimit : 2 < run + limit)
    (h : runLength q limit (cs ++ s) = limit) : ∃ k, run + k ≤ 2 ∧ cs = List.replicate k q := by
  induction cs generalizing run limit with
  | nil => exact ⟨0, hrun, rfl⟩
  | cons c cs ih =>
    by_cases hc : c = q
    · subst hc
      rw [longestRun_cons_self] at hrun
      have hle := le_longestRun c (run + 1) cs
      obtain ⟨limit, rfl⟩ : ∃ l, limit = l + 1 := ⟨limit - 1, by omega⟩
      rw [List.cons_append, runLength, if_pos rfl] at h
      obtain ⟨k, hk, rfl⟩ := ih hrun (by omega) (Nat.succ.inj h)
      exact ⟨k + 1, by omega, rfl⟩
    · have hle := Nat.le_trans (le_longestRun q run (c :: cs)) hrun
      rw [List.cons_append, runLength_of_ne hc] at h
      omega

theorem eq_replicate_of_basicChars {run limit : Nat} {cs s : List Char} (hrun : run ≤ 2)
    (hlimit : 2 < run + limit) (h : runLength '"' limit (basicChars true run cs ++ s) = limit) :
    ∃ k, run + k ≤ 2 ∧ cs = List.replicate k '"' := by
  -- the body may have more quotes in a row, of which the first is escaped: so the induction is on
  -- the text, and goes on only over quotes that are not
  induction cs generalizing run limit with
  | nil => exact ⟨0, hrun, rfl⟩
  | cons c cs ih =>
    by_cases hc : c = '"'
    · subst hc
      by_cases hlt : run < 2
      · obtain ⟨limit, rfl⟩ : ∃ l, limit = l + 1 := ⟨limit - 1, by omega⟩
        rw [basicChars_quote hlt, List.cons_append, runLength, if_pos rfl] at h
        obtain ⟨k, hk, rfl⟩ := ih (by omega) (by omega) (Nat.succ.inj h)
        exact ⟨k + 1, by omega, rfl⟩
      · rw [basicChars_quote_escaped fun _ => by omega, List.append_assoc, List.cons_append,
          runLength_of_ne (by decide)] at h
        omega
    · obtain ⟨d, t, ht, hd⟩ := (stands_escaped true hc).eq_cons
      rw [basicChars_cons_of_ne _ _ hc, ht, List.append_assoc, List.cons_append,
        runLength_of_ne hd] at h
      omega

theorem closing_replicate {q : Char} {k : Nat} {rest : List Char} (hk : k ≤ 2)
    (hr : rest.head? ≠ some q) :
    closing q (List.replicate k q ++ rest) = (List.replicate k q, rest) := by
  have hn : runLength q 2 (List.replicate k q ++ rest) = k := by
    rw [runLength_replicate_append, runLength_eq_zero hr]
    omega
  simp [closing, hn]

theorem replicate_append_quotes (q : Char) (k : Nat) (rest : List Char) :
    List.replicate k q ++ (q :: q :: q :: rest) = q :: q :: q :: (List.replicate k q ++ rest) := by
  induction k with
  | zero => rfl
  | succ k ih => rw [List.replicate_succ, List.cons_append, ih, List.cons_append]

theorem atClosing_quotes (q : Char) (rest : List Char) :
    atClosing q (q :: q :: q :: rest) = true := by
  simp [atClosing, runLength]

/-! ## Strings of several lines -/

theorem basicLines_quotes {k : Nat} {rest : List Char} (hk : k ≤ 2) (hr : rest.head? ≠ some '"') :
    basicLines (List.replicate k '"' ++ '"' :: '"' :: '"' :: rest) =
      some (List.replicate k '"', rest) := by
  rw [replicate_append_quotes, basicLines, if_pos (atClosing_quotes _ _)]
  exact congrArg some (closing_replicate hk hr)

theorem literalLines_quotes {k : Nat} {rest : List Char} (hk : k ≤ 2)
    (hr : rest.head? ≠ some '\'') :
    literalLines (List.replicate k '\'' ++ '\'' :: '\'' :: '\'' :: rest) =
      some (List.replicate k '\'', rest) := by
  rw [replicate_append_quotes, literalLines, if_pos (atClosing_quotes _ _)]
  exact congrArg some (closing_replicate hk hr)

theorem lineJoin_eq_none_of_escape {s rest : List Char} {c : Char}
    (h : escape s = some (c, rest)) : lineJoin s = none := by
  unfold escape at h
  split at h
  case h_10 => cases h
  all_goals rfl

theorem basicLines_stands {c : Char} {t rest : List Char} (h : Stands true c t) :
    basicLines (t ++ rest) = consChar c (basicLines rest) := by
  cases h with
  | plain h =>
    have hne := ne_of_inBasic h
    have hclose : atClosing '"' (c :: rest) = false := by
      rw [atClosing, runLength_of_ne hne.1]
      rfl
    rw [List.singleton_append, basicLines, if_neg (by simp [hclose]), if_neg hne.2,
      if_pos (by simp [h])]
  | lineFeed _ hc =>
    subst hc
    rw [List.singleton_append, basicLines, if_neg (by simp [atClosing, runLength]),
      if_neg (by decide), if_neg (by decide)]
    rfl
  | escape e h =>
    have hjoin := lineJoin_eq_none_of_escape (h rest)
    rw [List.cons_append, basicLines, if_neg (by simp [atClosing, runLength]), if_pos rfl]
    split
    · rename_i heq
      cases heq.symm.trans hjoin
    · split
      · rename_i heq
        cases heq.symm.trans (h rest)
        rfl
      · rename_i heq
        cases heq.symm.trans (h rest)

theorem basicLines_quote {rest : List Char} (h : atClosing '"' ('"' :: rest) = false) :
    basicLines ('"' :: rest) = consChar '"' (basicLines rest) := by
  rw [basicLines, if_neg (by simp [h]), if_neg (by decide), if_pos (by decide)]

theorem basicChars_replicate {run k : Nat} (h : run + k ≤ 2) :
    basicChars true run (List.replicate k '"') = List.replicate k '"' := by
  induction k generalizing run with
  | zero => rfl
  | succ k ih =>
    rw [List.replicate_succ, basicChars_quote (by omega), ih (by omega)]

theorem basicLines_basicChars {run : Nat} (hrun : run ≤ 2) (cs : List Char) {rest : List Char}
    (hr : rest.head? ≠ some '"') :
    basicLines (basicChars true run cs ++ '"' :: '"' :: '"' :: rest) = some (cs, rest) := by
  induction cs generalizing run with
  | nil => exact basicLines_quotes (k := 0) (by decide) hr
  | cons c cs ih =>
    by_cases hclose :
        atClosing '"' (basicChars true run (c :: cs) ++ '"' :: '"' :: '"' :: rest) = true
    · -- the text ends in quotes that join the closing ones
      obtain ⟨k, hk, hcs⟩ := eq_replicate_of_basicChars hrun (by omega) (beq_iff_eq.1 hclose)
      rw [hcs, basicChars_replicate hk]
      exact basicLines_quotes (by omega) hr
    · by_cases hc : c = '"'
      · subst hc
        by_cases hlt : run < 2
        · rw [basicChars_quote hlt, List.cons_append] at hclose ⊢
          rw [basicLines_quote (Bool.eq_false_iff.2 hclose), ih (by omega)]
          rfl
        · rw [basicChars_quote_escaped fun _ => by omega, List.append_assoc,
            basicLines_stands (stands_escaped_quote true), ih (by omega)]
          rfl
      · rw [basicChars_cons_of_ne _ _ hc, List.append_assoc,
          basicLines_stands (stands_escaped true hc), ih (by omega)]
        rfl

theorem literalLines_append {run : Nat} {cs rest : List Char}
    (hrun : longestRun '\'' run cs ≤ 2) (hcs : ∀ c ∈ cs, isControl c = false)
    (hr : rest.head? ≠ some '\'') :
    literalLines (cs ++ '\'' :: '\'' :: '\'' :: rest) = some (cs, rest) := by
  induction cs generalizing run with
  | nil => exact literalLines_quotes (k := 0) (by decide) hr
  | cons c cs ih =>
    by_cases hclose : atClosing '\'' (c :: cs ++ '\'' :: '\'' :: '\'' :: rest) = true
    · have hle := le_longestRun '\'' run (c :: cs)
      obtain ⟨k, hk, hcs⟩ := eq_replicate_of_longestRun hrun (by omega) (beq_iff_eq.1 hclose)
      rw [hcs]
      exact literalLines_quotes (by omega) hr
    · have hcontrol := hcs c List.mem_cons_self
      have hrest : ∀ d ∈ cs, isControl d = false := fun d hd => hcs d (List.mem_cons_of_mem _ hd)
      have htail : literalLines (cs ++ '\'' :: '\'' :: '\'' :: rest) = some (cs, rest) := by
        by_cases hc : c = '\''
        · subst hc
          rw [longestRun_cons_self] at hrun
          exact ih hrun hrest
        · rw [longestRun_cons_of_ne hc] at hrun
          exact ih (Nat.le_trans (Nat.le_max_right _ _) hrun) hrest
      rw [List.cons_append] at hclose
      rw [List.cons_append, literalLines, if_neg hclose]
      by_cases hl : c = '\n'
      · subst hl
        rw [if_neg (by decide)]
        show consChar '\n' (literalLines _) = _
        rw [htail]
        rfl
      · have hin : (inLiteral c || c == '\'') = true := by
          by_cases hq : c = '\''
          · simp [hq]
          · simp [inLiteral_of_not_isControl hcontrol hq hl]
        rw [if_pos hin, htail]
        rfl

end Replica.Toml
