import Replica.Proofs.Json.Values
import Replica.Proofs.Text.Blank
import Replica.Transfer.MissingFile

/-!
# When a primary says that it does not hold a blob

The body is read against everything that an object can say and every way to write it.

* `NamesJson`, `isJson_iff`: the content types of JSON;
* `codeAfter`: the code of an object, member by member;
* `readMember_writes`, **`readMembers_writes`**: reading the members computes it;
* `codeAfter_eq_some`: there is a code exactly if one member has its name, and a string for a value;
* **`isPrimaryMissingFile_iff`**.
-/

namespace Replica

namespace MissingFile

open Text (isBlank exists_trim trim_append)

/-! ## Content types -/

/-- **A content type of JSON**: the media type in capital or small letters, between blanks, up to a
semicolon if there is one. -/
inductive NamesJson : String → Prop
  | mk {left mime right parameters : List Char} (hl : ∀ c ∈ left, isBlank c = true)
      (hm : mime.map Char.toLower = "application/json".toList) (hr : ∀ c ∈ right, isBlank c = true)
      (hp : ∀ c ∈ parameters.head?, c = ';') :
      NamesJson (String.ofList (left ++ (mime ++ (right ++ parameters))))

theorem toLower_of_isBlank {c : Char} (h : isBlank c = true) : c.toLower = c := by
  have hcode : ¬(0x41 ≤ c.toNat ∧ c.toNat ≤ 0x5a) := by
    simp only [isBlank, Text.blankRanges, List.any_cons, List.any_nil, Bool.or_false,
      Bool.or_eq_true, Bool.and_eq_true, decide_eq_true_eq] at h
    omega
  exact dif_neg hcode

theorem not_isBlank_of_mem {mime : List Char}
    (h : mime.map Char.toLower = "application/json".toList) {c : Char} (hc : c ∈ mime) :
    isBlank c = false ∧ c ≠ ';' := by
  have hmem : c.toLower ∈ "application/json".toList := h ▸ List.mem_map_of_mem hc
  have hall : ∀ d ∈ "application/json".toList, isBlank d = false ∧ d ≠ ';' := by
    have hletters : ("application/json".toList.all fun d => !isBlank d && d != ';') = true := by
      decide
    simpa only [List.all_eq_true, Bool.and_eq_true, Bool.not_eq_true', bne_iff_ne] using hletters
  constructor
  · by_contra hblank
    rw [Bool.not_eq_false] at hblank
    rw [toLower_of_isBlank hblank] at hmem
    rw [(hall c hmem).1] at hblank
    cases hblank
  · rintro rfl
    exact (hall _ hmem).2 rfl

theorem isJson_iff (contentType? : Option String) :
    isJson contentType? = true ↔ ∃ t, contentType? = some t ∧ NamesJson t := by
  cases contentType? with
  | none => simp [isJson]
  | some t =>
    have hsemi : ∀ c : Char, isBlank c = true → c ≠ ';' := by
      rintro c hc rfl
      cases hc
    simp only [isJson, mediaType, beq_iff_eq, Option.some.injEq, exists_eq_left']
    constructor
    · intro h
      obtain ⟨left, right, hpart, hl, hr⟩ := exists_trim (t.toList.takeWhile (· != ';'))
      have hm := congrArg String.toList h
      rw [String.toList_ofList] at hm
      have hp : ∀ c ∈ (t.toList.dropWhile (· != ';')).head?, c = ';' := by
        intro c hc
        have := List.head?_dropWhile_not (· != ';') t.toList
        rw [Option.mem_def.1 hc] at this
        simpa using this
      have ht := NamesJson.mk hl hm hr hp
      rwa [← List.append_assoc _ right, ← List.append_assoc left, ← hpart,
        List.takeWhile_append_dropWhile, String.ofList_toList] at ht
    · rintro ⟨hl, hm, hr, hp⟩
      rename_i left mime right parameters
      have hpart : (left ++ (mime ++ (right ++ parameters))).takeWhile (· != ';') =
          left ++ (mime ++ right) := by
        have hnone : ∀ c ∈ left ++ (mime ++ right), (c != ';') = true := by
          intro c hc
          rw [bne_iff_ne]
          rcases List.mem_append.1 hc with hc | hc
          · exact hsemi c (hl c hc)
          · rcases List.mem_append.1 hc with hc | hc
            · exact (not_isBlank_of_mem hm hc).2
            · exact hsemi c (hr c hc)
        have hend : parameters.takeWhile (· != ';') = [] := by
          cases parameters with
          | nil => rfl
          | cons c cs => exact List.takeWhile_cons_of_neg (by simp [hp c rfl])
        rw [← List.append_assoc mime, ← List.append_assoc left,
          List.takeWhile_append_of_pos hnone, hend, List.append_nil]
      rw [String.toList_ofList, hpart,
        trim_append hl hr (fun c hc => (not_isBlank_of_mem hm (List.mem_of_mem_head? hc)).1)
          (fun c hc => (not_isBlank_of_mem hm (List.mem_of_getLast? hc)).1),
        String.toList_ofList, hm, String.ofList_toList]

/-! ## The code of an object -/

section

open Json

/-- What a member with the name of the code may hold: a string, or null for no code. -/
def code? : Value → Option (Option String)
  | .string s => some (some s)
  | .null => some none
  | _ => none

/-- What is known of the code behind a member. A second member with its name is an error. -/
def codeAfterMember (found : Option (Option String)) (m : String × Value) :
    Option (Option (Option String)) :=
  if m.1 = codeKey then if found.isSome then none else (code? m.2).map some else some found

/-- **What is known of the code** behind all members. -/
def codeAfter : (found : Option (Option String)) → List (String × Value) →
    Option (Option (Option String))
  | found, [] => some found
  | found, m :: ms => (codeAfterMember found m).bind fun found' => codeAfter found' ms

theorem codeAfter_some (code : Option String) (ms : List (String × Value)) :
    codeAfter (some code) ms =
      if ms.filter (·.1 = codeKey) = [] then some (some code) else none := by
  induction ms with
  | nil => rfl
  | cons m ms ih =>
    by_cases hm : m.1 = codeKey
    · simp [codeAfter, codeAfterMember, hm]
    · rw [codeAfter, codeAfterMember, if_neg hm, Option.bind_some, ih,
        List.filter_cons_of_neg (by simpa using hm)]

/-- **There is a code exactly if one member has its name**, and the code for a value. -/
theorem codeAfter_eq_some {c : String} {ms : List (String × Value)} :
    codeAfter none ms = some (some (some c)) ↔
      ms.filter (·.1 = codeKey) = [(codeKey, .string c)] := by
  induction ms with
  | nil => simp [codeAfter]
  | cons m ms ih =>
    obtain ⟨name, v⟩ := m
    by_cases hm : name = codeKey
    · cases v <;> simp [codeAfter, codeAfterMember, code?, codeAfter_some, hm, and_comm]
    · simp [codeAfter, codeAfterMember, hm, ih]

variable {s rest w w' : Bytes} {b : UInt8} {v : Value} {found : Option (Option String)}

/-! ## Reading the members -/

theorem readCode_writes (hw : Blank w) (h : Writes v s) (rest : Bytes) :
    readCode (w ++ (s ++ rest)) = (code? v).map fun code => (code, rest) := by
  cases h.head with
  | string hs =>
    rw [List.cons_append, List.append_assoc, readCode, skipSpace_append_cons hw rfl]
    simp only [if_true, List.singleton_append, readString_writes hs, code?, Option.map_some]
  | null =>
    rw [List.cons_append, readCode, skipSpace_append_cons hw rfl]
    rfl
  | other hb hn hs =>
    obtain ⟨hquote, hnull, -, -, hspace⟩ := ne_of_isOther hb
    have hcode : code? v = none := by
      cases v with
      | null => exact absurd rfl hn
      | string text => exact absurd rfl (hs text)
      | bool | number | array | object => rfl
    rw [List.cons_append, readCode, skipSpace_append_cons hw hspace, hcode]
    simp only [if_neg hquote, if_neg hnull, Option.map_none]

/-- **A member is read**, its value behind any blanks. -/
theorem readMember_writes (name : String) (hw : Blank w) (h : Writes v s) (hr : Stops rest) :
    readMember found name (w ++ (s ++ rest)) =
      (codeAfterMember found (name, v)).map fun found' => (found', rest) := by
  rw [readMember, codeAfterMember, readCode_writes hw h, skipValue_writes h hw hr]
  split
  · split
    · rfl
    · rw [Option.map_map, Option.map_map]
      rfl
  · rfl

theorem readMembers_eq (found : Option (Option String)) (s : Bytes) :
    readMembers found s =
      match skipSpace s with
      | [] => none
      | b :: rest =>
        if b = 0x22 then
          (readPair found rest).bind fun r =>
            match skipSpace r.2 with
            | [] => none
            | c :: rest' =>
              if c = 0x2c then readMembers r.1 rest'
              else if c = 0x7d then some (r.1, rest') else none
        else none := by
  rw [readMembers]
  split
  · rename_i hs
    simp only [hs]
  · rename_i b rest hs
    simp only [hs]
    split
    · split
      · rename_i hp
        simp only [hp, Option.bind_none]
      · rename_i found' rest' hp
        simp only [hp, Option.bind_some]
        split <;> simp only [*]
    · rfl

theorem readMembers_member {name : String} {k w₁ w₂ : Bytes} (hw : Blank w)
    (hk : WritesString name k) (hw₁ : Blank w₁) (hw₂ : Blank w₂) (h : Writes v s) (hw' : Blank w')
    (hb : b = 0x2c ∨ b = 0x5d ∨ b = 0x7d) (rest : Bytes) :
    readMembers found (w ++ (k ++ (w₁ ++ 0x3a :: (w₂ ++ (s ++ (w' ++ b :: rest)))))) =
      (codeAfterMember found (name, v)).bind fun found' =>
        if b = 0x2c then readMembers found' rest
        else if b = 0x7d then some (found', rest) else none := by
  obtain ⟨hk⟩ := hk
  have hspace : isSpace b = false := by
    rcases hb with rfl | rfl | rfl <;> rfl
  rw [List.cons_append, List.cons_append, List.append_assoc, List.singleton_append, readMembers_eq,
    skipSpace_append_cons hw rfl]
  simp only [if_true, readPair, readString_writes hk, skipColon_append hw₁]
  rw [readMember_writes name hw₂ h (stops_append hw' hb rest), Option.bind_map]
  refine congrArg _ (funext fun found' => ?_)
  simp only [Function.comp_apply, skipSpace_append_cons hw' hspace]

/-- **Reading the members computes the code.** -/
theorem readMembers_writes {ms : List (String × Value)} {s : Bytes} (h : WritesMembers ms s)
    (found : Option (Option String)) (rest : Bytes) :
    readMembers found (s ++ rest) = (codeAfter found ms).map fun code => (code, rest) := by
  cases h with
  | last hw hk hw₁ hw₂ h hw' =>
    simp only [List.append_assoc, List.cons_append]
    rw [readMembers_member hw hk hw₁ hw₂ h hw' (.inr (.inr rfl)), codeAfter, Option.map_bind]
    rfl
  | cons hw hk hw₁ hw₂ h hw' hr =>
    simp only [List.append_assoc, List.cons_append]
    rw [readMembers_member hw hk hw₁ hw₂ h hw' (.inl rfl), codeAfter, Option.map_bind]
    exact congrArg _ (funext fun found' => readMembers_writes hr found' rest)

theorem readMembers_append (hw : Blank w) (s : Bytes) :
    readMembers found (w ++ s) = readMembers found s := by
  rw [readMembers_eq, readMembers_eq, skipSpace_append hw]

/-! ## The body -/

theorem readObject_writes {ms : List (String × Value)} (h : Writes (.object ms) (0x7b :: s))
    (rest : Bytes) :
    readObject (s ++ rest) = (codeAfter none ms).map fun code => (code.join, rest) := by
  cases h with
  | emptyObject hw =>
    change readObject ((_ ++ [0x7d]) ++ rest) = _
    rw [List.append_assoc, readObject, List.singleton_append, skipSpace_append_cons hw rfl]
    rfl
  | object h =>
    obtain ⟨w, t, rfl, hw⟩ := h.eq_append
    have hmembers := readMembers_writes h none rest
    rw [List.append_assoc, List.cons_append, readMembers_append hw] at hmembers
    rw [List.append_assoc, List.cons_append, readObject, skipSpace_append_cons hw rfl]
    simp only
    rw [if_neg (by decide), hmembers, Option.map_map]
    rfl

/-- **The code of a written object**, if all its members are in order. -/
theorem readBody_writes {ms : List (String × Value)} {text : Bytes}
    (h : WritesText (.object ms) text) :
    readBody text = (codeAfter none ms).map Option.join := by
  obtain ⟨hw, h, hw'⟩ := h
  rename_i w s w'
  obtain ⟨t, rfl⟩ : ∃ t, s = 0x7b :: t := by
    cases h with
    | emptyObject => exact ⟨_, rfl⟩
    | object => exact ⟨_, rfl⟩
  have hend : skipSpace w' = [] := by
    rw [← List.append_nil w', skipSpace_append hw']
    rfl
  rw [List.cons_append, readBody, skipSpace_append_cons hw rfl]
  simp only [if_true, readObject_writes h]
  cases codeAfter none ms with
  | none => rfl
  | some code => simp [hend]

end

end MissingFile

open MissingFile in
/-- **A primary says that it does not hold the blob exactly by an answer 404 of JSON, an object with
one member for the code**, and the sentinel in it. -/
theorem isPrimaryMissingFile_iff {members : List (String × Json.Value)} {text : Bytes}
    (h : Json.WritesText (.object members) text) (status : Nat) (contentType? : Option String) :
    isPrimaryMissingFile status contentType? text = true ↔
      status = 404 ∧ (∃ t, contentType? = some t ∧ NamesJson t) ∧
        members.filter (fun m => m.1 = "geo_code") = [("geo_code", .string "FILE_NOT_FOUND")] := by
  have hcode : readBody text = some (some sentinel) ↔
      members.filter (fun m => m.1 = codeKey) = [(codeKey, .string sentinel)] := by
    rw [readBody_writes h, ← codeAfter_eq_some]
    cases codeAfter none members with
    | none => simp
    | some code => cases code <;> simp
  rw [isPrimaryMissingFile, Bool.and_eq_true, Bool.and_eq_true, beq_iff_eq, beq_iff_eq, isJson_iff,
    hcode, and_assoc]
  rfl

open Json MissingFile in
/-- An answer with an escape in the name, behind a member that is only skipped. -/
theorem isPrimaryMissingFile_iff_escaped_name :
    WritesText
        (.object [("ids", .array [.number 15 1, .null]), ("geo_code", .string "FILE_NOT_FOUND")])
        (octets " \x7b\"ids\":[1.5e2, null],\"geo\\u005Fcode\" : \"FILE_NOT_FOUND\"\x7d\n") ∧
      isPrimaryMissingFile 404 (some " Application/JSON ; charset=utf-8")
        (octets " \x7b\"ids\":[1.5e2, null],\"geo\\u005Fcode\" : \"FILE_NOT_FOUND\"\x7d\n") =
          true := by
  have hnumber : WritesNumber 15 1 (octets "1.5e2") :=
    .mk (n := ⟨false, [1], [5], some ⟨false, none, [2]⟩⟩)
      ⟨by decide, by decide, by decide, by decide, by decide, by decide⟩ rfl
  have hids : WritesString "ids" (octets "\"ids\"") := .mk (writesChars_octets (by simp))
  have hgeo : WritesChars ['g', 'e', 'o'] (octets "geo") := writesChars_octets (by simp)
  have hescape : WritesChar '_' (octets "\\u005F") :=
    .unit (.mk (.decimal (v := 0) (by decide)) (.decimal (v := 0) (by decide))
      (.decimal (v := 5) (by decide)) (.capital (v := 5) (by decide)))
  have hcode : WritesChars ['c', 'o', 'd', 'e'] (octets "code") := writesChars_octets (by simp)
  have hname : WritesString "geo_code" (octets "\"geo\\u005Fcode\"") :=
    .mk (t := "geo_code") (hgeo.append (.cons hescape hcode))
  have hsentinel : WritesString "FILE_NOT_FOUND" (octets "\"FILE_NOT_FOUND\"") :=
    .mk (writesChars_octets (by simp))
  have hspace : Blank [0x20] := by decide
  have hnewline : Blank [0x0a] := by decide
  have hitems : Writes (.array [.number 15 1, .null]) (octets "[1.5e2, null]") :=
    .array (.cons blank_nil (.number hnumber) blank_nil (.last hspace .null blank_nil))
  have htext := WritesText.mk hspace (.object (.cons blank_nil hids blank_nil blank_nil hitems
    blank_nil (.last blank_nil hname hspace hspace (.string hsentinel) blank_nil))) hnewline
  have hjson : NamesJson " Application/JSON ; charset=utf-8" := by
    have hblank : ∀ c ∈ [' '], Text.isBlank c = true := fun c hc => by
      obtain rfl := List.mem_singleton.1 hc
      decide
    have hmime : "Application/JSON".toList.map Char.toLower = "application/json".toList := by decide
    have hhead : "; charset=utf-8".toList.head? = some ';' := by decide
    have hrest : ∀ c ∈ "; charset=utf-8".toList.head?, c = ';' := fun c hc =>
      (Option.some.inj (hhead.symm.trans hc)).symm
    exact .mk hblank hmime hblank hrest
  exact ⟨htext, (isPrimaryMissingFile_iff htext 404 _).2 ⟨rfl, ⟨_, rfl, hjson⟩, rfl⟩⟩

end Replica
