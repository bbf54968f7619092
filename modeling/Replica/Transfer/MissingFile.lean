import Replica.Json
import Replica.Text

/-!
# The answer of a primary that does not hold a blob

A primary that legitimately lacks a blob says so in a JSON body with status 404, whose `geo_code` is
`FILE_NOT_FOUND`. Any other failure may be worth a retry, this one is not.

* `readBody`: the code of a body. The body is an object with at most one member `geo_code`, a string
  or null, among members that are only skipped; or an array whose single element is the code.
* **`isPrimaryMissingFile`**.
-/

namespace Replica

namespace MissingFile

/-- The code that marks the answer. -/
def sentinel : String := "FILE_NOT_FOUND"

/-- The name of the member that holds the code. -/
def codeKey : String := "geo_code"

/-- A string or null, whatever blanks stand before it. -/
def readCode (s : Bytes) : Option (Option String × Bytes) :=
  match Json.skipSpace s with
  | [] => none
  | b :: rest =>
    if b = 0x22 then (Json.readString rest).map fun r => (some r.1, r.2)
    else if b = 0x6e then (Json.skipWord [0x75, 0x6c, 0x6c] rest).map fun r => (none, r)
    else none

/-- The value of a member: kept under the key of the code, which may occur once, and skipped under
any other key. -/
def readMember (found : Option (Option String)) (key : String) (s : Bytes) :
    Option (Option (Option String) × Bytes) :=
  if key = codeKey then
    if found.isSome then none else (readCode s).map fun r => (some r.1, r.2)
  else (Json.skipValue s).map fun r => (found, r)

theorem length_le_of_readMember {found found' : Option (Option String)} {key : String}
    {s rest : Bytes} (h : readMember found key s = some (found', rest)) :
    rest.length ≤ s.length := by
  unfold readMember at h
  split at h
  · split at h
    · cases h
    · obtain ⟨r, hr, h⟩ := Option.map_eq_some_iff.1 h
      simp only [Prod.mk.injEq] at h
      obtain ⟨-, rfl⟩ := h
      unfold readCode at hr
      split at hr
      · cases hr
      · rename_i hs
        have := Json.length_lt_of_skipSpace hs
        split at hr
        · obtain ⟨t, ht, rfl⟩ := Option.map_eq_some_iff.1 hr
          have := Json.length_lt_of_readString ht
          simp only
          omega
        · split at hr
          · obtain ⟨t, ht, rfl⟩ := Option.map_eq_some_iff.1 hr
            have := Json.length_le_of_skipWord ht
            simp only
            omega
          · cases hr
  · obtain ⟨r, hr, h⟩ := Option.map_eq_some_iff.1 h
    simp only [Prod.mk.injEq] at h
    obtain ⟨-, rfl⟩ := h
    exact Json.length_le_of_skipOpen hr

/-- A key, its colon and the value, the key behind its opening quote. -/
def readPair (found : Option (Option String)) (s : Bytes) :
    Option (Option (Option String) × Bytes) :=
  match Json.readString s with
  | some (key, rest) =>
    match Json.skipColon rest with
    | some rest' => readMember found key rest'
    | none => none
  | none => none

theorem length_lt_of_readPair {found found' : Option (Option String)} {s rest : Bytes}
    (h : readPair found s = some (found', rest)) : rest.length < s.length := by
  unfold readPair at h
  split at h
  · rename_i hk
    split at h
    · rename_i hc
      have := length_le_of_readMember h
      have := Json.length_lt_of_skipColon hc
      have := Json.length_lt_of_readString hk
      omega
    · cases h
  · cases h

/-- The code among the members of an object, from a key on, and the octets behind the object. -/
def readMembers (found : Option (Option String)) (s : Bytes) :
    Option (Option (Option String) × Bytes) :=
  match hs : Json.skipSpace s with
  | [] => none
  | b :: rest =>
    if b = 0x22 then
      match hp : readPair found rest with
      | none => none
      | some (found', rest') =>
        match ht : Json.skipSpace rest' with
        | [] => none
        | c :: rest'' =>
          have := Json.length_lt_of_skipSpace hs
          have := length_lt_of_readPair hp
          have := Json.length_lt_of_skipSpace ht
          if c = 0x2c then readMembers found' rest''
          else if c = 0x7d then some (found', rest'')
          else none
    else none
termination_by s.length
decreasing_by omega

/-- The code in an object, behind its brace. -/
def readObject (s : Bytes) : Option (Option String × Bytes) :=
  match Json.skipSpace s with
  | [] => none
  | b :: rest =>
    if b = 0x7d then some (none, rest)
    else (readMembers none (b :: rest)).map fun r => (r.1.join, r.2)

/-- The code as the only element of an array, behind its bracket. -/
def readArray (s : Bytes) : Option (Option String × Bytes) :=
  match readCode s with
  | none => none
  | some (code, rest) =>
    match Json.skipSpace rest with
    | [] => none
    | b :: rest' => if b = 0x5d then some (code, rest') else none

/-- The code of a body, if it has the form of one. -/
def readBody (s : Bytes) : Option (Option String) :=
  match Json.skipSpace s with
  | [] => none
  | b :: rest =>
    let r := if b = 0x7b then readObject rest else if b = 0x5b then readArray rest else none
    match r with
    | some (code, rest') => if (Json.skipSpace rest').isEmpty then some code else none
    | none => none

/-- The part of a content type that names the media type: up to a semicolon, trimmed and in small
letters. -/
def mediaType (contentType : String) : String :=
  String.ofList
    ((Text.trim (String.ofList (contentType.toList.takeWhile (· != ';')))).toList.map Char.toLower)

/-- A content type that names JSON, whatever its parameters. -/
def isJson (contentType? : Option String) : Bool :=
  match contentType? with
  | some t => mediaType t == "application/json"
  | none => false

end MissingFile

/-- **The primary says that it does not hold the blob.** -/
def isPrimaryMissingFile (status : Nat) (contentType? : Option String) (body : Bytes) : Bool :=
  status == 404 && MissingFile.isJson contentType? &&
    MissingFile.readBody body == some (some MissingFile.sentinel)

end Replica
