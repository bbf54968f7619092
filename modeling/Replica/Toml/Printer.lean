import Replica.Decimal.Digits
import Replica.Toml.Lexical

/-!
# Writing a TOML document

A document of tables that hold only texts, natural numbers and flags.

* `Form`, `formOf`: the most readable of the four forms of strings that can hold a text;
* `basicChars`: the body of a basic string. Of quotes in a row as many are left unescaped as the
  form allows, and the count begins anew behind each escape;
* `keyText`: a key, bare where it can be;
* **`document`**: the tables under their headers, with a blank line between two.
-/

namespace Replica.Toml

/-! ## Escapes -/

/-- A control other than tab and line feed. -/
def isControl (c : Char) : Bool :=
  (c.toNat ≤ 0x1f && c != '\t' && c != '\n') || c.toNat == 0x7f

/-- A capital hexadecimal digit. -/
def capitalDigit (n : Nat) : Char := if n < 10 then Char.ofNat (48 + n) else Char.ofNat (55 + n)

/-- The escape of a control by its code in four digits. -/
def codeEscape (c : Char) : List Char :=
  ['\\', 'u', '0', '0', capitalDigit (c.toNat / 16), capitalDigit (c.toNat % 16)]

/-- How a character that is no quote is written in a basic string. -/
def escaped (severalLines : Bool) (c : Char) : List Char :=
  if c = '\x08' then ['\\', 'b']
  else if c = '\t' then ['\\', 't']
  else if c = '\n' then if severalLines then ['\n'] else ['\\', 'n']
  else if c = '\x0c' then ['\\', 'f']
  else if c = '\r' then ['\\', 'r']
  else if c = '\\' then ['\\', '\\']
  else if isControl c then codeEscape c
  else [c]

/-- The body of a basic string; `run` is the number of unescaped quotes just before. -/
def basicChars (severalLines : Bool) : (run : Nat) → List Char → List Char
  | _, [] => []
  | run, c :: rest =>
    if c = '"' then
      if run < (if severalLines then 2 else 0) then '"' :: basicChars severalLines (run + 1) rest
      else '\\' :: '"' :: basicChars severalLines 0 rest
    else escaped severalLines c ++ basicChars severalLines 0 rest

/-! ## Strings -/

/-- The four forms of strings. -/
inductive Form where
  | basic
  | literal
  | basicLines
  | literalLines
  deriving DecidableEq

/-- The length of the longest run of a character, `run` of which stand just before. -/
def longestRun (x : Char) : (run : Nat) → List Char → Nat
  | run, [] => run
  | run, c :: rest => if c = x then longestRun x (run + 1) rest else max run (longestRun x 0 rest)

/-- The form in which a text is written: without escapes if some form allows that. -/
def formOf (cs : List Char) : Form :=
  let control := cs.any isControl
  let backslash := cs.contains '\\'
  let lines := cs.contains '\n'
  let singles := longestRun '\'' 0 cs
  let doubles := longestRun '"' 0 cs
  if !control && !backslash && doubles == 0 && !lines then .basic
  else if !control && singles == 0 && !lines then .literal
  else if !control && !backslash && doubles ≤ 2 then .basicLines
  else if !control && singles ≤ 2 then .literalLines
  else if lines then .basicLines
  else .basic

/-- A text between its quotes. A text of several lines begins on a line of its own. -/
def writeForm (form : Form) (cs : List Char) : List Char :=
  let start := if cs.contains '\n' then ['\n'] else []
  match form with
  | .basic => '"' :: basicChars false 0 cs ++ ['"']
  | .literal => '\'' :: cs ++ ['\'']
  | .basicLines => ['"', '"', '"'] ++ start ++ basicChars true 0 cs ++ ['"', '"', '"']
  | .literalLines => ['\'', '\'', '\''] ++ start ++ cs ++ ['\'', '\'', '\'']

/-- A string. -/
def stringText (s : String) : List Char := writeForm (formOf s.toList) s.toList

/-- The form of a key that cannot be bare. -/
def keyFormOf (cs : List Char) : Form :=
  let oneLine := !cs.any isControl && !cs.contains '\n'
  if oneLine && !cs.contains '\\' && !cs.contains '"' then .basic
  else if oneLine && !cs.contains '\'' then .literal
  else .basic

/-- A key. -/
def keyText (s : String) : List Char :=
  let cs := s.toList
  if !cs.isEmpty && cs.all inBareKey then cs else writeForm (keyFormOf cs) cs

/-! ## Documents -/

/-- A value that holds no others. -/
inductive Plain where
  | text (s : String)
  | number (n : Nat)
  | flag (b : Bool)
  deriving DecidableEq

/-- The text of such a value. -/
def Plain.chars : Plain → List Char
  | text s => stringText s
  | number n => (natText n).toList
  | flag b => if b then "true".toList else "false".toList

/-- An assignment on a line of its own. -/
def assignmentText (key : String) (v : Plain) : List Char :=
  keyText key ++ " = ".toList ++ v.chars ++ ['\n']

/-- A table under its header. -/
def tableText (name : String) (entries : List (String × Plain)) : List Char :=
  '[' :: keyText name ++ [']', '\n'] ++ entries.flatMap fun e => assignmentText e.1 e.2

/-- **A document of tables.** -/
def document (tables : List (String × List (String × Plain))) : String :=
  String.ofList (List.intercalate ['\n'] (tables.map fun t => tableText t.1 t.2))

end Replica.Toml
