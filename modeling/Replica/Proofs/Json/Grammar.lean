import Mathlib.Data.List.Basic
import Replica.Json

/-!
# How JSON is written

What a text says, and all the ways to say it: blanks between the tokens, escapes in strings, and
spellings of numbers.

* `Value`: what a text says. Names may occur more than once in an object;
* `WritesChar`, `WritesString`: a character as itself, as an escape of one letter, or by its code;
* `Spelling`, `WritesNumber`: a number in one of its spellings;
* **`Writes`**, `WritesItems`, `WritesMembers`: a value, and what stands in an array or an object,
  up to the bracket that closes it;
* **`WritesText`**: a value with blanks around it;
* `Writes.head`: the first octet of a value tells its kind.
-/

namespace Replica.Json

/-- What a text says. A number is its coefficient times a power of ten. -/
inductive Value where
  | null
  | bool (b : Bool)
  | number (coefficient exponent : Int)
  | string (s : String)
  | array (items : List Value)
  | object (members : List (String × Value))

/-! ## Blanks -/

/-- Spaces, tabs, line feeds and carriage returns. -/
def Blank (w : Bytes) : Prop := ∀ b ∈ w, b = 0x20 ∨ b = 0x09 ∨ b = 0x0a ∨ b = 0x0d

instance (w : Bytes) : Decidable (Blank w) :=
  List.decidableBAll (fun b => b = 0x20 ∨ b = 0x09 ∨ b = 0x0a ∨ b = 0x0d) w

theorem blank_nil : Blank [] := nofun

theorem Blank.isSpace {w : Bytes} (h : Blank w) {b : UInt8} (hb : b ∈ w) : isSpace b = true := by
  rcases h b hb with rfl | rfl | rfl | rfl <;> rfl

/-! ## Strings -/

/-- A hexadecimal digit, small or capital, and its value. -/
inductive HexDigit : UInt8 → Nat → Prop
  | decimal {v : Nat} (h : v < 10) : HexDigit (UInt8.ofNat (0x30 + v)) v
  | small {v : Nat} (h : v < 6) : HexDigit (UInt8.ofNat (0x61 + v)) (10 + v)
  | capital {v : Nat} (h : v < 6) : HexDigit (UInt8.ofNat (0x41 + v)) (10 + v)

/-- Four hexadecimal digits. -/
inductive CodeUnit : Bytes → Nat → Prop
  | mk {a b c d : UInt8} {va vb vc vd : Nat} (ha : HexDigit a va) (hb : HexDigit b vb)
      (hc : HexDigit c vc) (hd : HexDigit d vd) :
      CodeUnit [a, b, c, d] (16 * (16 * (16 * va + vb) + vc) + vd)

/-- The characters that have an escape of one letter, with the letter. -/
def letters : List (Char × UInt8) :=
  [('"', 0x22), ('\\', 0x5c), ('/', 0x2f), ('\x08', 0x62), ('\x0c', 0x66), ('\n', 0x6e),
    ('\r', 0x72), ('\t', 0x74)]

/-- **A character in a string.** Only quotes, backslashes and control characters have to be
escaped; a character behind the first 65536 is escaped as a surrogate pair. -/
inductive WritesChar : Char → Bytes → Prop
  | plain {c : Char} (hc : 0x20 ≤ c.toNat) (hq : c ≠ '"') (hb : c ≠ '\\') :
      WritesChar c (octets (String.singleton c))
  | letter {c : Char} {b : UInt8} (h : (c, b) ∈ letters) : WritesChar c [0x5c, b]
  | unit {c : Char} {s : Bytes} (h : CodeUnit s c.toNat) : WritesChar c (0x5c :: 0x75 :: s)
  | pair {c : Char} {s t : Bytes} {high low : Nat} (hs : CodeUnit s high) (ht : CodeUnit t low)
      (hh : 0xd800 ≤ high ∧ high < 0xdc00) (hl : 0xdc00 ≤ low ∧ low < 0xe000)
      (hc : c.toNat = 0x10000 + (high - 0xd800) * 0x400 + (low - 0xdc00)) :
      WritesChar c (0x5c :: 0x75 :: s ++ 0x5c :: 0x75 :: t)

/-- The characters of a string, one after the other. -/
inductive WritesChars : List Char → Bytes → Prop
  | nil : WritesChars [] []
  | cons {c : Char} {cs : List Char} {s t : Bytes} (h : WritesChar c s) (hr : WritesChars cs t) :
      WritesChars (c :: cs) (s ++ t)

/-- **A string** between its quotes. -/
inductive WritesString : String → Bytes → Prop
  | mk {t : String} {s : Bytes} (h : WritesChars t.toList s) : WritesString t (0x22 :: s ++ [0x22])

/-! ## Numbers -/

/-- An exponent as it is spelled: by a small or a capital letter, with any sign or none. -/
structure SpelledExponent where
  capital : Bool
  /-- The sign, if there is one: whether it is a minus. -/
  sign? : Option Bool
  digits : List Nat

/-- A number as it is spelled. Without a digit behind the point there is no point. -/
structure Spelling where
  negative : Bool
  whole : List Nat
  fraction : List Nat
  exponent? : Option SpelledExponent

/-- Decimal digits as they are written. -/
def digitsText (digits : List Nat) : Bytes := digits.map fun d => UInt8.ofNat (0x30 + d)

/-- The number that decimal digits stand for. -/
def digitsValue (digits : List Nat) : Nat := digits.foldl (fun n d => 10 * n + d) 0

namespace SpelledExponent

/-- An exponent as it is written. -/
def text (e : SpelledExponent) : Bytes :=
  let sign : Bytes :=
    match e.sign? with
    | none => []
    | some minus => [if minus then 0x2d else 0x2b]
  (if e.capital then 0x45 else 0x65) :: sign ++ digitsText e.digits

/-- The number that an exponent stands for. -/
def value (e : SpelledExponent) : Int :=
  if e.sign? = some true then -digitsValue e.digits else digitsValue e.digits

end SpelledExponent

namespace Spelling

/-- A point and the digits behind it, or nothing. -/
def fractionText (n : Spelling) : Bytes :=
  if n.fraction = [] then [] else 0x2e :: digitsText n.fraction

/-- The exponent, or nothing. -/
def exponentText (n : Spelling) : Bytes := (n.exponent?.map (·.text)).getD []

/-- A number as it is written. -/
def text (n : Spelling) : Bytes :=
  (if n.negative then [0x2d] else []) ++ digitsText n.whole ++ n.fractionText ++ n.exponentText

/-- There are digits wherever there have to be, and a zero in front stands alone. -/
structure Legal (n : Spelling) : Prop where
  whole_ne_nil : n.whole ≠ []
  whole_lt : ∀ d ∈ n.whole, d < 10
  zero_alone : n.whole.head? = some 0 → n.whole = [0]
  fraction_lt : ∀ d ∈ n.fraction, d < 10
  exponent_ne_nil : ∀ e ∈ n.exponent?, e.digits ≠ []
  exponent_lt : ∀ e ∈ n.exponent?, ∀ d ∈ e.digits, d < 10

/-- The digits as one integer. -/
def coefficient (n : Spelling) : Int :=
  if n.negative then -digitsValue (n.whole ++ n.fraction) else digitsValue (n.whole ++ n.fraction)

/-- The power of ten that goes with it. -/
def exponent (n : Spelling) : Int := (n.exponent?.map (·.value)).getD 0 - n.fraction.length

end Spelling

/-- **A number in a spelling that has its value**: the two products with powers of ten agree. -/
inductive WritesNumber : Int → Int → Bytes → Prop
  | mk {coefficient exponent : Int} {n : Spelling} (h : n.Legal)
      (hv : coefficient * Nat.pow 10 (exponent - n.exponent).toNat =
        n.coefficient * Nat.pow 10 (n.exponent - exponent).toNat) :
      WritesNumber coefficient exponent n.text

/-! ## Values -/

mutual

/-- **A value as it is written**, from its first octet to its last. -/
inductive Writes : Value → Bytes → Prop
  | null : Writes .null [0x6e, 0x75, 0x6c, 0x6c]
  | boolTrue : Writes (.bool true) [0x74, 0x72, 0x75, 0x65]
  | boolFalse : Writes (.bool false) [0x66, 0x61, 0x6c, 0x73, 0x65]
  | number {coefficient exponent : Int} {s : Bytes} (h : WritesNumber coefficient exponent s) :
      Writes (.number coefficient exponent) s
  | string {t : String} {s : Bytes} (h : WritesString t s) : Writes (.string t) s
  | emptyArray {w : Bytes} (hw : Blank w) : Writes (.array []) (0x5b :: w ++ [0x5d])
  | array {items : List Value} {s : Bytes} (h : WritesItems items s) :
      Writes (.array items) (0x5b :: s)
  | emptyObject {w : Bytes} (hw : Blank w) : Writes (.object []) (0x7b :: w ++ [0x7d])
  | object {members : List (String × Value)} {s : Bytes} (h : WritesMembers members s) :
      Writes (.object members) (0x7b :: s)

/-- The items of an array, and the bracket behind the last. -/
inductive WritesItems : List Value → Bytes → Prop
  | last {v : Value} {w s w' : Bytes} (hw : Blank w) (h : Writes v s) (hw' : Blank w') :
      WritesItems [v] (w ++ (s ++ (w' ++ [0x5d])))
  | cons {v : Value} {items : List Value} {w s w' t : Bytes} (hw : Blank w) (h : Writes v s)
      (hw' : Blank w') (hr : WritesItems items t) :
      WritesItems (v :: items) (w ++ (s ++ (w' ++ 0x2c :: t)))

/-- The members of an object, each a name, a colon and a value, and the brace behind the last. -/
inductive WritesMembers : List (String × Value) → Bytes → Prop
  | last {name : String} {v : Value} {w k w₁ w₂ s w' : Bytes} (hw : Blank w)
      (hk : WritesString name k) (hw₁ : Blank w₁) (hw₂ : Blank w₂) (h : Writes v s)
      (hw' : Blank w') :
      WritesMembers [(name, v)] (w ++ (k ++ (w₁ ++ 0x3a :: (w₂ ++ (s ++ (w' ++ [0x7d]))))))
  | cons {name : String} {v : Value} {members : List (String × Value)} {w k w₁ w₂ s w' t : Bytes}
      (hw : Blank w) (hk : WritesString name k) (hw₁ : Blank w₁) (hw₂ : Blank w₂) (h : Writes v s)
      (hw' : Blank w') (hr : WritesMembers members t) :
      WritesMembers ((name, v) :: members)
        (w ++ (k ++ (w₁ ++ 0x3a :: (w₂ ++ (s ++ (w' ++ 0x2c :: t))))))

end

/-- **A text that says a value**, with blanks around it. -/
inductive WritesText : Value → Bytes → Prop
  | mk {v : Value} {w s w' : Bytes} (hw : Blank w) (h : Writes v s) (hw' : Blank w') :
      WritesText v (w ++ (s ++ w'))

/-! ## The first octet -/

theorem digitsText_cons {d : Nat} (hd : d < 10) (digits : List Nat) :
    ∃ b, digitsText (d :: digits) = b :: digitsText digits ∧ isDigit b = true ∧
      (b = 0x30 ↔ d = 0) := by
  have hall : ∀ d < 10, isDigit (UInt8.ofNat (0x30 + d)) = true ∧
      (UInt8.ofNat (0x30 + d) = 0x30 ↔ d = 0) := by decide
  exact ⟨_, rfl, hall d hd⟩

theorem Spelling.Legal.head_cases {n : Spelling} (h : n.Legal) :
    ∃ b t, n.text = b :: t ∧ (b = 0x2d ∨ isDigit b = true) := by
  cases hneg : n.negative with
  | true => exact ⟨0x2d, _, by rw [Spelling.text, hneg]; rfl, .inl rfl⟩
  | false =>
    cases hw : n.whole with
    | nil => exact absurd hw h.whole_ne_nil
    | cons d ds =>
      obtain ⟨b, ht, hb, -⟩ := digitsText_cons (h.whole_lt d (by simp [hw])) ds
      refine ⟨b, digitsText ds ++ n.fractionText ++ n.exponentText, ?_, .inr hb⟩
      rw [Spelling.text, hneg, hw, ht]
      simp

/-- An octet with which neither a string nor `null` begins, and which is no blank and no closing
bracket. -/
def isOther (b : UInt8) : Bool :=
  b != 0x22 && b != 0x6e && b != 0x5d && b != 0x7d && !isSpace b

theorem ne_of_isOther {b : UInt8} (h : isOther b = true) :
    b ≠ 0x22 ∧ b ≠ 0x6e ∧ b ≠ 0x5d ∧ b ≠ 0x7d ∧ isSpace b = false := by
  simpa only [isOther, Bool.and_eq_true, bne_iff_ne, Bool.not_eq_true', and_assoc] using h

theorem isOther_of_isDigit {b : UInt8} (h : isDigit b = true) : isOther b = true := by
  obtain ⟨hlo, hhi⟩ := Bool.and_eq_true_iff.1 h
  have hlo : 0x30 ≤ b.toNat := UInt8.le_iff_toNat_le.1 (of_decide_eq_true hlo)
  have hhi : b.toNat ≤ 0x39 := UInt8.le_iff_toNat_le.1 (of_decide_eq_true hhi)
  have hne : ∀ c : UInt8, c.toNat < 0x30 ∨ 0x39 < c.toNat → b ≠ c := by
    rintro c hc rfl
    omega
  simp [isOther, isSpace, hne 0x22 (by decide), hne 0x6e (by decide), hne 0x5d (by decide),
    hne 0x7d (by decide), hne 0x20 (by decide), hne 0x09 (by decide), hne 0x0a (by decide),
    hne 0x0d (by decide)]

/-- **The first octet tells the kind of a value.** -/
inductive Head : Value → Bytes → Prop
  | string {text : String} {body : Bytes} (h : WritesChars text.toList body) :
      Head (.string text) (0x22 :: (body ++ [0x22]))
  | null : Head .null [0x6e, 0x75, 0x6c, 0x6c]
  | other {v : Value} {b : UInt8} {t : Bytes} (hb : isOther b = true) (hn : v ≠ .null)
      (hs : ∀ text, v ≠ .string text) : Head v (b :: t)

theorem Writes.head {v : Value} {s : Bytes} (h : Writes v s) : Head v s := by
  cases h with
  | null => exact .null
  | string h =>
    obtain ⟨h⟩ := h
    exact .string h
  | number h =>
    obtain ⟨h, -⟩ := h
    obtain ⟨b, t, ht, hb⟩ := h.head_cases
    rw [ht]
    refine .other ?_ nofun nofun
    rcases hb with rfl | hb
    · rfl
    · exact isOther_of_isDigit hb
  | boolTrue | boolFalse | emptyArray | array | emptyObject | object =>
    exact .other rfl nofun nofun

theorem Writes.eq_cons {v : Value} {s : Bytes} (h : Writes v s) :
    ∃ b t, s = b :: t ∧ isSpace b = false ∧ b ≠ 0x5d ∧ b ≠ 0x7d := by
  cases h.head with
  | string | null => exact ⟨_, _, rfl, rfl, by decide, by decide⟩
  | other hb =>
    obtain ⟨-, -, hbracket, hbrace, hspace⟩ := ne_of_isOther hb
    exact ⟨_, _, rfl, hspace, hbracket, hbrace⟩

end Replica.Json
