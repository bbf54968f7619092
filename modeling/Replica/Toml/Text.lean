import Replica.Bytes
import Replica.Toml.Lexical

/-!
# Strings of a TOML document

Four forms: basic strings with escapes, literal strings without, and the two over several lines.
A parser of a body begins behind the opening quotes and ends behind the closing ones.

* `escape`: what may follow a backslash;
* `basicBody`, `literalBody`: up to the next quote;
* `basicLines`, `literalLines`: up to three quotes, of which up to two more may be the end of the
  text; a line break is read as a line feed;
* **`text`**: a string in any form; `singleLine`: in a form that a key may have.
-/

namespace Replica.Toml

/-- The character with the given hexadecimal code, if there is one. -/
def charOfHex? (digits : List Char) : Option Char := do
  let values ← digits.mapM Bytes.hexValue?
  let n := values.foldl (fun n d => 16 * n + d) 0
  if n.isValidChar then some (Char.ofNat n) else none

/-- A character by its code of so many hexadecimal digits. -/
def charByCode (count : Nat) : Parser Char := fun s =>
  if (s.take count).length < count then none
  else (charOfHex? (s.take count)).map fun c => (c, s.drop count)

theorem length_le_of_charByCode {count : Nat} {s rest : List Char} {c : Char}
    (h : charByCode count s = some (c, rest)) : rest.length ≤ s.length := by
  unfold charByCode at h
  split at h
  · cases h
  · obtain ⟨_, _, h⟩ := Option.map_eq_some_iff.1 h
    cases h
    simp

/-- An escape behind its backslash. -/
def escape : Parser Char
  | 'b' :: rest => some ('\x08', rest)
  | 't' :: rest => some ('\t', rest)
  | 'n' :: rest => some ('\n', rest)
  | 'f' :: rest => some ('\x0c', rest)
  | 'r' :: rest => some ('\r', rest)
  | '"' :: rest => some ('"', rest)
  | '\\' :: rest => some ('\\', rest)
  | 'u' :: rest => charByCode 4 rest
  | 'U' :: rest => charByCode 8 rest
  | _ => none

theorem length_lt_of_escape {s rest : List Char} {c : Char} (h : escape s = some (c, rest)) :
    rest.length < s.length := by
  unfold escape at h
  split at h
  case h_8 | h_9 => exact Nat.lt_succ_of_le (length_le_of_charByCode h)
  case h_10 => cases h
  all_goals
    cases h
    simp

/-- One character in front of what a parser has read. -/
def consChar (c : Char) : Option (List Char × List Char) → Option (List Char × List Char)
  | some (cs, rest) => some (c :: cs, rest)
  | none => none

/-! ## Strings on one line -/

/-- A basic string behind its opening quote. -/
def basicBody (s : List Char) : Option (List Char × List Char) :=
  match s with
  | [] => none
  | c :: rest =>
    if c = '"' then some ([], rest)
    else if c = '\\' then
      match h : escape rest with
      | some (e, rest') =>
        have := length_lt_of_escape h
        consChar e (basicBody rest')
      | none => none
    else if inBasic c then consChar c (basicBody rest)
    else none
termination_by s.length
decreasing_by
  · simp only [List.length_cons]; omega
  · simp

/-- A literal string behind its opening quote. -/
def literalBody : List Char → Option (List Char × List Char)
  | [] => none
  | c :: rest =>
    if c = '\'' then some ([], rest)
    else if inLiteral c then consChar c (literalBody rest)
    else none

/-! ## Strings over several lines -/

/-- The number of times a character is repeated at the front, at most `limit`. -/
def runLength (c : Char) : (limit : Nat) → List Char → Nat
  | limit + 1, d :: rest => if d = c then runLength c limit rest + 1 else 0
  | _, _ => 0

/-- Behind three closing quotes: up to two more belong to the text. -/
def closing (quote : Char) (rest : List Char) : List Char × List Char :=
  let n := runLength quote 2 rest
  (List.replicate n quote, rest.drop n)

/-- Three quotes come next. -/
def atClosing (quote : Char) (s : List Char) : Bool := runLength quote 3 s == 3

/-- Behind a backslash that ends its line: the characters after all blanks that follow. -/
def lineJoin (s : List Char) : Option (List Char) := (newline (skipWs s)).map (skipBlank false)

theorem length_lt_of_newline {s rest : List Char} (h : newline s = some rest) :
    rest.length < s.length := by
  unfold newline at h
  split at h
  · cases h; simp
  · cases h
    simp only [List.length_cons]
    omega
  · cases h

theorem length_lt_of_lineJoin {s rest : List Char} (h : lineJoin s = some rest) :
    rest.length < s.length := by
  obtain ⟨t, ht, rfl⟩ := Option.map_eq_some_iff.1 h
  exact Nat.lt_of_le_of_lt (length_skipBlank_le false t)
    (Nat.lt_of_lt_of_le (length_lt_of_newline ht) (List.dropWhile_sublist _).length_le)

/-- A basic string of several lines behind its opening quotes. -/
def basicLines (s : List Char) : Option (List Char × List Char) :=
  match s with
  | [] => none
  | c :: rest =>
    if atClosing '"' (c :: rest) then some (closing '"' (rest.drop 2))
    else if c = '\\' then
      match hj : lineJoin rest with
      | some rest' =>
        have := length_lt_of_lineJoin hj
        basicLines rest'
      | none =>
        match h : escape rest with
        | some (e, rest') =>
          have := length_lt_of_escape h
          consChar e (basicLines rest')
        | none => none
    else if inBasic c || c == '"' then consChar c (basicLines rest)
    else
      match h : newline (c :: rest) with
      | some rest' =>
        have := length_lt_of_newline h
        consChar '\n' (basicLines rest')
      | none => none
termination_by s.length
decreasing_by
  · simp only [List.length_cons]; omega
  · simp only [List.length_cons]; omega
  · simp
  · assumption

/-- A literal string of several lines behind its opening quotes. -/
def literalLines (s : List Char) : Option (List Char × List Char) :=
  match s with
  | [] => none
  | c :: rest =>
    if atClosing '\'' (c :: rest) then some (closing '\'' (rest.drop 2))
    else if inLiteral c || c == '\'' then consChar c (literalLines rest)
    else
      match h : newline (c :: rest) with
      | some rest' =>
        have := length_lt_of_newline h
        consChar '\n' (literalLines rest')
      | none => none
termination_by s.length
decreasing_by
  · simp
  · assumption

/-! ## Strings -/

/-- A line break behind the opening quotes does not count. -/
def skipFirstBreak (s : List Char) : List Char := (newline s).getD s

/-- The characters of a body as a string. -/
def asString : Option (List Char × List Char) → Option (String × List Char)
  | some (cs, rest) => some (String.ofList cs, rest)
  | none => none

/-- A string in one of the two forms that a key may have too. -/
def singleLine : Parser String
  | '"' :: rest => asString (basicBody rest)
  | '\'' :: rest => asString (literalBody rest)
  | _ => none

/-- **A string in any form.** -/
def text : Parser String
  | '"' :: '"' :: '"' :: rest => asString (basicLines (skipFirstBreak rest))
  | '\'' :: '\'' :: '\'' :: rest => asString (literalLines (skipFirstBreak rest))
  | s => singleLine s

end Replica.Toml
