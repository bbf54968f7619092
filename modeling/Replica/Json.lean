import Replica.Bytes

/-!
# JSON

`Json` is the values that a diagnostic can carry. Two kinds of readers go through the octets of a
text, both from those that are left to those behind what was read.

* `skipValue`: checks the form of a value without decoding it: any nesting, any code units in
  strings, any octets from `0x20` on, numbers of any size. The brackets that are open are kept in a
  list, so the depth of a value is not limited.
* `readString`: decodes a string; its octets have to be UTF-8 and its surrogates paired.

All of them begin at the first octet of what they read, but those for strings behind the quote.
-/

namespace Replica

/-- A JSON value. -/
inductive Json where
  | null
  | bool (b : Bool)
  | number (n : Int)
  | string (s : String)
  | array (items : List Json)
  | object (members : List (String × Json))
  deriving Repr

instance : Inhabited Json := ⟨.null⟩

/-- The text of a value that is one. -/
def Json.string? : Json → Option String
  | string s => some s
  | _ => none

namespace Json

/-! ## Space and digits -/

/-- Space, tab, line feed or carriage return. -/
def isSpace (b : UInt8) : Bool := b == 0x20 || b == 0x09 || b == 0x0a || b == 0x0d

/-- What is behind the blanks in front. -/
def skipSpace (s : Bytes) : Bytes := s.dropWhile isSpace

/-- An octet that is a decimal digit. -/
def isDigit (b : UInt8) : Bool := 0x30 ≤ b && b ≤ 0x39

/-- The value of a hexadecimal digit. -/
def hexValue? (b : UInt8) : Option Nat := Bytes.hexValue? (Char.ofNat b.toNat)

theorem length_skipSpace_le (s : Bytes) : (skipSpace s).length ≤ s.length :=
  (List.dropWhile_sublist _).length_le

/-! ## Strings that are skipped -/

/-- An escape of one letter. -/
def isShortEscape (b : UInt8) : Bool :=
  b == 0x22 || b == 0x5c || b == 0x2f || b == 0x62 || b == 0x66 || b == 0x6e || b == 0x72 || b == 0x74

/-- The octets behind an escape, itself behind its backslash. -/
def skipEscape : Bytes → Option Bytes
  | [] => none
  | e :: rest =>
    if e = 0x75 then
      match rest with
      | a :: b :: c :: d :: rest' =>
        if [a, b, c, d].all fun x => (hexValue? x).isSome then some rest' else none
      | _ => none
    else if isShortEscape e then some rest
    else none

theorem length_lt_of_skipEscape {s rest : Bytes} (h : skipEscape s = some rest) :
    rest.length < s.length := by
  unfold skipEscape at h
  split at h
  · cases h
  · split at h
    · split at h
      · split at h
        · cases h; simp; omega
        · cases h
      · cases h
    · split at h
      · cases h; simp
      · cases h

/-- The octets behind a string, itself behind its opening quote. -/
def skipString (s : Bytes) : Option Bytes :=
  match s with
  | [] => none
  | b :: rest =>
    if b = 0x22 then some rest
    else if b = 0x5c then
      match h : skipEscape rest with
      | some rest' =>
        have := length_lt_of_skipEscape h
        skipString rest'
      | none => none
    else if b < 0x20 then none
    else skipString rest
termination_by s.length
decreasing_by
  · simp only [List.length_cons]; omega
  · simp

theorem length_lt_of_skipString {s rest : Bytes} (h : skipString s = some rest) :
    rest.length < s.length := by
  fun_induction skipString s with
  | case1 => cases h
  | case2 => cases h; simp
  | case3 _ _ hs _ _ ih =>
    have := ih h
    have := length_lt_of_skipEscape hs
    simp only [List.length_cons]
    omega
  | case4 => cases h
  | case5 => cases h
  | case6 _ _ _ _ _ ih => exact Nat.lt_succ_of_lt (ih h)

/-! ## Numbers and words -/

/-- One digit or more. -/
def skipDigits1 : Bytes → Option Bytes
  | [] => none
  | d :: rest => if isDigit d then some (rest.dropWhile isDigit) else none

/-- A sign, if one comes next. -/
def skipSign : Bytes → Bytes
  | b :: rest => if b = 0x2b ∨ b = 0x2d then rest else b :: rest
  | [] => []

/-- An exponent, if one comes next. -/
def skipExponent : Bytes → Option Bytes
  | b :: rest => if b = 0x65 ∨ b = 0x45 then skipDigits1 (skipSign rest) else some (b :: rest)
  | [] => some []

/-- A fraction and an exponent, each if it comes next. -/
def skipFraction : Bytes → Option Bytes
  | b :: rest =>
    if b = 0x2e then
      match skipDigits1 rest with
      | some rest' => skipExponent rest'
      | none => none
    else skipExponent (b :: rest)
  | [] => some []

/-- A number behind its sign. A zero in front is the whole integer part. -/
def skipNumber : Bytes → Option Bytes
  | [] => none
  | d :: rest =>
    if d = 0x30 then
      match rest with
      | e :: _ => if isDigit e then none else skipFraction rest
      | [] => some []
    else if isDigit d then skipFraction (rest.dropWhile isDigit)
    else none

/-- The given octets. -/
def skipWord : (word : Bytes) → Bytes → Option Bytes
  | [], s => some s
  | w :: ws, b :: s => if b = w then skipWord ws s else none
  | _ :: _, [] => none

theorem length_le_of_skipDigits1 {s rest : Bytes} (h : skipDigits1 s = some rest) :
    rest.length ≤ s.length := by
  unfold skipDigits1 at h
  split at h
  · cases h
  · split at h
    · cases h
      exact Nat.le_succ_of_le (List.dropWhile_sublist _).length_le
    · cases h

theorem length_skipSign_le (s : Bytes) : (skipSign s).length ≤ s.length := by
  unfold skipSign
  split
  · split
    · exact Nat.le_succ _
    · exact Nat.le_refl _
  · exact Nat.le_refl _

theorem length_le_of_skipExponent {s rest : Bytes} (h : skipExponent s = some rest) :
    rest.length ≤ s.length := by
  unfold skipExponent at h
  split at h
  · rename_i b t
    split at h
    · have := length_le_of_skipDigits1 h
      have := length_skipSign_le t
      simp only [List.length_cons]
      omega
    · cases h; exact Nat.le_refl _
  · cases h; exact Nat.le_refl _

theorem length_le_of_skipFraction {s rest : Bytes} (h : skipFraction s = some rest) :
    rest.length ≤ s.length := by
  unfold skipFraction at h
  split at h
  · split at h
    · split at h
      · rename_i hd
        have := length_le_of_skipExponent h
        have := length_le_of_skipDigits1 hd
        simp only [List.length_cons]
        omega
      · cases h
    · exact length_le_of_skipExponent h
  · cases h; exact Nat.le_refl _

theorem length_lt_of_skipNumber {s rest : Bytes} (h : skipNumber s = some rest) :
    rest.length < s.length := by
  unfold skipNumber at h
  split at h
  · cases h
  · split at h
    · split at h
      · split at h
        · cases h
        · exact Nat.lt_succ_of_le (length_le_of_skipFraction h)
      · cases h; simp
    · split at h
      · have := length_le_of_skipFraction h
        exact Nat.lt_succ_of_le (Nat.le_trans this (List.dropWhile_sublist _).length_le)
      · cases h

theorem length_le_of_skipWord {word s rest : Bytes} (h : skipWord word s = some rest) :
    rest.length ≤ s.length := by
  induction word generalizing s with
  | nil => cases h; exact Nat.le_refl _
  | cons w ws ih =>
    cases s with
    | nil => cases h
    | cons b s =>
      rw [skipWord] at h
      split at h
      · exact Nat.le_succ_of_le (ih h)
      · cases h

/-- A value that is neither an array nor an object, by its first octet. -/
def skipScalar : Bytes → Option Bytes
  | [] => none
  | b :: rest =>
    if b = 0x22 then skipString rest
    else if b = 0x6e then skipWord [0x75, 0x6c, 0x6c] rest
    else if b = 0x74 then skipWord [0x72, 0x75, 0x65] rest
    else if b = 0x66 then skipWord [0x61, 0x6c, 0x73, 0x65] rest
    else if b = 0x2d then skipNumber rest
    else skipNumber (b :: rest)

theorem length_lt_of_skipScalar {s rest : Bytes} (h : skipScalar s = some rest) :
    rest.length < s.length := by
  unfold skipScalar at h
  split at h
  · cases h
  · split at h
    · exact Nat.lt_succ_of_lt (length_lt_of_skipString h)
    · split at h
      · exact Nat.lt_succ_of_le (length_le_of_skipWord h)
      · split at h
        · exact Nat.lt_succ_of_le (length_le_of_skipWord h)
        · split at h
          · exact Nat.lt_succ_of_le (length_le_of_skipWord h)
          · split at h
            · exact Nat.lt_succ_of_lt (length_lt_of_skipNumber h)
            · exact length_lt_of_skipNumber h

/-! ## Values that are skipped -/

/-- What is open: an array or an object. -/
inductive Bracket where
  | array
  | object
  deriving DecidableEq, Repr

/-- What comes next: a value, the key of a member, or what stands behind a value. -/
inductive Place where
  | value
  | key
  | behind
  deriving DecidableEq, Repr

/-- What comes next, the brackets that are open, the innermost first, and the octets left. -/
abbrev Cursor : Type := Place × List Bracket × Bytes

/-- Behind an opening bracket: an empty array or object ends at once. -/
def enter (bracket : Bracket) (opened : List Bracket) (s : Bytes) : Option Cursor :=
  match bracket, skipSpace s with
  | _, [] => none
  | .array, c :: rest =>
    if c = 0x5d then some (.behind, opened, rest) else some (.value, .array :: opened, c :: rest)
  | .object, c :: rest =>
    if c = 0x7d then some (.behind, opened, rest) else some (.key, .object :: opened, c :: rest)

/-- At a value. -/
def atValue (opened : List Bracket) (s : Bytes) : Option Cursor :=
  match skipSpace s with
  | [] => none
  | b :: rest =>
    if b = 0x5b then enter .array opened rest
    else if b = 0x7b then enter .object opened rest
    else (skipScalar (b :: rest)).map fun r => (.behind, opened, r)

/-- The octets behind a colon, whatever blanks stand before it. -/
def skipColon (s : Bytes) : Option Bytes :=
  match skipSpace s with
  | [] => none
  | b :: rest => if b = 0x3a then some rest else none

/-- At the key of a member. -/
def atKey (opened : List Bracket) (s : Bytes) : Option Cursor :=
  match skipSpace s with
  | [] => none
  | b :: rest =>
    if b = 0x22 then
      match skipString rest with
      | some r => (skipColon r).map fun r' => (.value, opened, r')
      | none => none
    else none

/-- Behind a value that stands in an array or an object. -/
def atComma (bracket : Bracket) (outer : List Bracket) (s : Bytes) : Option Cursor :=
  match bracket, skipSpace s with
  | _, [] => none
  | .array, b :: rest =>
    if b = 0x2c then some (.value, .array :: outer, rest)
    else if b = 0x5d then some (.behind, outer, rest)
    else none
  | .object, b :: rest =>
    if b = 0x2c then some (.key, .object :: outer, rest)
    else if b = 0x7d then some (.behind, outer, rest)
    else none

theorem length_lt_of_skipSpace {s rest : Bytes} {b : UInt8} (h : skipSpace s = b :: rest) :
    rest.length < s.length := by
  have := length_skipSpace_le s
  rw [h] at this
  exact this

theorem length_le_of_enter {bracket : Bracket} {opened : List Bracket} {s : Bytes} {c : Cursor}
    (h : enter bracket opened s = some c) : c.2.2.length ≤ s.length := by
  unfold enter at h
  split at h
  · cases h
  all_goals
    rename_i hs
    split at h
    · cases h
      exact Nat.le_of_lt (length_lt_of_skipSpace hs)
    · cases h
      exact length_lt_of_skipSpace hs

theorem length_lt_of_atValue {opened : List Bracket} {s : Bytes} {c : Cursor}
    (h : atValue opened s = some c) : c.2.2.length < s.length := by
  unfold atValue at h
  split at h
  · cases h
  · rename_i b rest hs
    have hlt := length_lt_of_skipSpace hs
    split at h
    · exact Nat.lt_of_le_of_lt (length_le_of_enter h) hlt
    · split at h
      · exact Nat.lt_of_le_of_lt (length_le_of_enter h) hlt
      · obtain ⟨r, hr, rfl⟩ := Option.map_eq_some_iff.1 h
        have := length_lt_of_skipScalar hr
        simp only [List.length_cons] at this
        exact Nat.lt_of_lt_of_le this hlt

theorem length_lt_of_skipColon {s rest : Bytes} (h : skipColon s = some rest) :
    rest.length < s.length := by
  unfold skipColon at h
  split at h
  · cases h
  · rename_i hs
    split at h
    · cases h; exact length_lt_of_skipSpace hs
    · cases h

theorem length_lt_of_atKey {opened : List Bracket} {s : Bytes} {c : Cursor}
    (h : atKey opened s = some c) : c.2.2.length < s.length := by
  unfold atKey at h
  split at h
  · cases h
  · rename_i hs
    split at h
    · split at h
      · rename_i hr
        obtain ⟨r', hc, rfl⟩ := Option.map_eq_some_iff.1 h
        have := length_lt_of_skipSpace hs
        have := length_lt_of_skipString hr
        have := length_lt_of_skipColon hc
        simp only
        omega
      · cases h
    · cases h

theorem length_lt_of_atComma {bracket : Bracket} {outer : List Bracket} {s : Bytes} {c : Cursor}
    (h : atComma bracket outer s = some c) : c.2.2.length < s.length := by
  unfold atComma at h
  split at h
  · cases h
  all_goals
    rename_i hs
    have := length_lt_of_skipSpace hs
    split at h
    · cases h; exact this
    · split at h
      · cases h; exact this
      · cases h

/-- The octets behind everything that is open. -/
def skipOpen (place : Place) (opened : List Bracket) (s : Bytes) : Option Bytes :=
  match place, opened with
  | .behind, [] => some s
  | .behind, bracket :: outer =>
    match h : atComma bracket outer s with
    | some c =>
      have := length_lt_of_atComma h
      skipOpen c.1 c.2.1 c.2.2
    | none => none
  | .value, opened =>
    match h : atValue opened s with
    | some c =>
      have := length_lt_of_atValue h
      skipOpen c.1 c.2.1 c.2.2
    | none => none
  | .key, opened =>
    match h : atKey opened s with
    | some c =>
      have := length_lt_of_atKey h
      skipOpen c.1 c.2.1 c.2.2
    | none => none
termination_by s.length

/-- **The octets behind a value**, whatever blanks stand before it. -/
def skipValue (s : Bytes) : Option Bytes := skipOpen .value [] s

theorem length_le_of_skipOpen {place : Place} {opened : List Bracket} {s rest : Bytes}
    (h : skipOpen place opened s = some rest) : rest.length ≤ s.length := by
  fun_induction skipOpen place opened s with
  | case1 => cases h; exact Nat.le_refl _
  | case2 _ _ _ _ hc _ ih => exact Nat.le_trans (ih h) (Nat.le_of_lt (length_lt_of_atComma hc))
  | case3 => cases h
  | case4 _ _ _ hc _ ih => exact Nat.le_trans (ih h) (Nat.le_of_lt (length_lt_of_atValue hc))
  | case5 => cases h
  | case6 _ _ _ hc _ ih => exact Nat.le_trans (ih h) (Nat.le_of_lt (length_lt_of_atKey hc))
  | case7 => cases h

/-! ## Strings that are decoded -/

/-- Four hexadecimal digits as a code unit. -/
def codeUnit? : Bytes → Option (Nat × Bytes)
  | a :: b :: c :: d :: rest => do
    let n ← [a, b, c, d].foldlM (fun n x => (hexValue? x).map fun v => 16 * n + v) 0
    return (n, rest)
  | _ => none

/-- The character of an escape behind `\u`: a code unit, or two that are a surrogate pair. -/
def unicodeEscape (s : Bytes) : Option (Char × Bytes) :=
  match codeUnit? s with
  | none => none
  | some (n, rest) =>
    if n < 0xd800 ∨ 0xdfff < n then some (Char.ofNat n, rest)
    else if 0xdc00 ≤ n then none
    else
      match rest with
      | 0x5c :: 0x75 :: rest' =>
        match codeUnit? rest' with
        | some (m, rest'') =>
          if 0xdc00 ≤ m ∧ m ≤ 0xdfff then
            some (Char.ofNat (0x10000 + (n - 0xd800) * 0x400 + (m - 0xdc00)), rest'')
          else none
        | none => none
      | _ => none

/-- The character of an escape of one letter. -/
def shortEscape? (b : UInt8) : Option Char :=
  if b = 0x22 then some '"'
  else if b = 0x5c then some '\\'
  else if b = 0x2f then some '/'
  else if b = 0x62 then some '\x08'
  else if b = 0x66 then some '\x0c'
  else if b = 0x6e then some '\n'
  else if b = 0x72 then some '\r'
  else if b = 0x74 then some '\t'
  else none

/-- The character of an escape behind its backslash. -/
def readEscape : Bytes → Option (Char × Bytes)
  | [] => none
  | e :: rest =>
    if e = 0x75 then unicodeEscape rest
    else (shortEscape? e).map fun c => (c, rest)

theorem length_lt_of_codeUnit? {s rest : Bytes} {n : Nat} (h : codeUnit? s = some (n, rest)) :
    rest.length < s.length := by
  unfold codeUnit? at h
  split at h
  · obtain ⟨_, _, h⟩ := Option.bind_eq_some_iff.1 h
    cases h
    simp only [List.length_cons]
    omega
  · cases h

theorem length_lt_of_unicodeEscape {s rest : Bytes} {c : Char}
    (h : unicodeEscape s = some (c, rest)) : rest.length < s.length := by
  unfold unicodeEscape at h
  split at h
  · cases h
  · rename_i n t hn
    have := length_lt_of_codeUnit? hn
    split at h
    · cases h; exact this
    · split at h
      · cases h
      · split at h
        · split at h
          · rename_i hm
            have := length_lt_of_codeUnit? hm
            split at h
            · simp only [Option.some.injEq, Prod.mk.injEq] at h
              obtain ⟨-, rfl⟩ := h
              simp only [List.length_cons] at *
              omega
            · cases h
          · cases h
        · cases h

theorem length_lt_of_readEscape {s rest : Bytes} {c : Char} (h : readEscape s = some (c, rest)) :
    rest.length < s.length := by
  unfold readEscape at h
  split at h
  · cases h
  · split at h
    · exact Nat.lt_succ_of_lt (length_lt_of_unicodeEscape h)
    · obtain ⟨_, _, h⟩ := Option.map_eq_some_iff.1 h
      cases h
      simp

/-- The octets that a string stands for, in reverse behind those read so far, and the octets
behind it. -/
def readOctets (acc : Bytes) (s : Bytes) : Option (Bytes × Bytes) :=
  match s with
  | [] => none
  | b :: rest =>
    if b = 0x22 then some (acc, rest)
    else if b = 0x5c then
      match h : readEscape rest with
      | some (c, rest') =>
        have := length_lt_of_readEscape h
        readOctets ((octets (String.singleton c)).reverse ++ acc) rest'
      | none => none
    else if b < 0x20 then none
    else readOctets (b :: acc) rest
termination_by s.length
decreasing_by
  · simp only [List.length_cons]; omega
  · simp

/-- **A string**, behind its opening quote. -/
def readString (s : Bytes) : Option (String × Bytes) :=
  match readOctets [] s with
  | some (acc, rest) =>
    match Bytes.text? acc.reverse with
    | some t => some (t, rest)
    | none => none
  | none => none

theorem length_lt_of_readOctets {acc s acc' rest : Bytes}
    (h : readOctets acc s = some (acc', rest)) : rest.length < s.length := by
  fun_induction readOctets acc s with
  | case1 => cases h
  | case2 => cases h; simp
  | case3 _ _ _ _ hs _ _ ih =>
    have := ih h
    have := length_lt_of_readEscape hs
    simp only [List.length_cons]
    omega
  | case4 => cases h
  | case5 => cases h
  | case6 _ _ _ _ _ _ ih => exact Nat.lt_succ_of_lt (ih h)

theorem length_lt_of_readString {s rest : Bytes} {t : String} (h : readString s = some (t, rest)) :
    rest.length < s.length := by
  unfold readString at h
  split at h
  · rename_i hr
    split at h
    · cases h; exact length_lt_of_readOctets hr
    · cases h
  · cases h

end Json

end Replica
