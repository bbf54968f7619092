/-!
# The characters of a TOML document

A parser takes the characters that are left and gives a value with the characters after it.

* `isWs`, `isNonAscii`, `inComment`, `inBasic`, `inLiteral`, `inBareKey`: the character classes;
* `newline`, `skipWs`, `skipComment`, `endLine`, `skipBlank`: what stands between the tokens.
-/

namespace Replica.Toml

/-- From the characters left to a value and the characters after it. -/
abbrev Parser (α : Type) : Type := List Char → Option (α × List Char)

/-! ## Character classes -/

/-- A space or a tab. -/
def isWs (c : Char) : Bool := c == ' ' || c == '\t'

/-- A character beyond the first 128. -/
def isNonAscii (c : Char) : Bool := 0x80 ≤ c.toNat

/-- A character with a code point between two others. -/
def between (first last : Nat) (c : Char) : Bool := first ≤ c.toNat && c.toNat ≤ last

/-- May stand in a comment: no control but the tab. -/
def inComment (c : Char) : Bool := c == '\t' || between 0x20 0x7e c || isNonAscii c

/-- May stand unescaped in a basic string. -/
def inBasic (c : Char) : Bool :=
  isWs c || c == '!' || between 0x23 0x5b c || between 0x5d 0x7e c || isNonAscii c

/-- May stand in a literal string. -/
def inLiteral (c : Char) : Bool :=
  c == '\t' || between 0x20 0x26 c || between 0x28 0x7e c || isNonAscii c

/-- May stand in a bare key. -/
def inBareKey (c : Char) : Bool :=
  between 0x41 0x5a c || between 0x61 0x7a c || between 0x30 0x39 c || c == '-' || c == '_'

/-- A decimal digit. -/
def isDigit (c : Char) : Bool := between 0x30 0x39 c

/-! ## Between the tokens -/

/-- A line feed, with or without a carriage return before it. -/
def newline : List Char → Option (List Char)
  | '\n' :: rest => some rest
  | '\r' :: '\n' :: rest => some rest
  | _ => none

/-- The characters after any spaces and tabs. -/
def skipWs (s : List Char) : List Char := s.dropWhile isWs

/-- The characters after a comment, if one begins here. -/
def skipComment : List Char → List Char
  | '#' :: rest => rest.dropWhile inComment
  | s => s

/-- The rest of a line: spaces, a comment, and a line break or the end of the document. -/
def endLine (s : List Char) : Option (List Char) :=
  match skipComment (skipWs s) with
  | [] => some []
  | rest => newline rest

/-- The characters after any spaces and line breaks, and, where they may stand, comments. -/
def skipBlank (comments : Bool) (s : List Char) : List Char :=
  match s with
  | [] => []
  | c :: rest =>
    if isWs c || c == '\n' then skipBlank comments rest
    else if comments && c == '#' then skipBlank comments (rest.dropWhile inComment)
    else if c == '\r' then
      match rest with
      | '\n' :: rest' => skipBlank comments rest'
      | _ => s
    else s
termination_by s.length
decreasing_by
  · simp
  · exact Nat.lt_succ_of_le (List.dropWhile_sublist _).length_le
  · simp only [List.length_cons]
    omega

theorem length_skipBlank_le (comments : Bool) (s : List Char) :
    (skipBlank comments s).length ≤ s.length := by
  fun_induction skipBlank comments s with
  | case1 => simp
  | case2 c rest h ih => exact Nat.le_succ_of_le ih
  | case3 c rest h h' ih =>
    exact Nat.le_succ_of_le (Nat.le_trans ih (List.dropWhile_sublist _).length_le)
  | case4 c h h' h'' rest ih => simp only [List.length_cons]; omega
  | case5 => exact Nat.le_refl _
  | case6 => exact Nat.le_refl _

/-- The characters after the given one, if it comes next. -/
def expect (c : Char) : List Char → Option (List Char)
  | d :: rest => if d = c then some rest else none
  | [] => none

end Replica.Toml
