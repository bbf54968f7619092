import Mathlib.Data.List.Basic
import Replica.Proofs.Json.Extension
import Replica.Proofs.Transfer.ErrorBody
import Replica.Proofs.Transfer.Sentinel

/-!
# Parts of an answer

A primary that lacks a blob is believed only for a whole body. The bracket in front decides where a
body ends, and nothing but blanks may follow, so no body that counts is the beginning of another one
but for blanks. A body that was cut off, or that goes on, says nothing.

* `readCode_extend`, `readMember_extend`, `readPair_extend`: one member, with something behind it;
* **`readMembers_extend`**, `readObject_extend`, `readArray_extend`: brackets, whatever is behind;
* **`readBody_append`**: a body and what follows it;
* **`missing_file_whole_body`**.
-/

namespace Replica

namespace MissingFile

open Json

variable {s t : Bytes} {code : Option String} {found found' : Option (Option String)}

/-! ## Members -/

theorem readCode_extend (h : readCode s = some (code, t)) (more : Bytes) :
    readCode (s ++ more) = some (code, t ++ more) := by
  unfold readCode at h
  split at h
  · cases h
  · rename_i b rest hs
    rw [readCode, skipSpace_extend hs more]
    simp only
    split at h
    · rename_i hquote
      obtain ⟨⟨text, t'⟩, ht, h⟩ := Option.map_eq_some_iff.1 h
      cases h
      rw [if_pos hquote, readString_extend ht more, Option.map_some]
    · rename_i hquote
      rw [if_neg hquote]
      split at h
      · rename_i hnull
        obtain ⟨t', ht, h⟩ := Option.map_eq_some_iff.1 h
        cases h
        rw [if_pos hnull, skipWord_extend ht more, Option.map_some]
      · cases h

theorem readMember_extend {key : String} (h : readMember found key s = some (found', t))
    (ht : t ≠ []) (more : Bytes) :
    readMember found key (s ++ more) = some (found', t ++ more) := by
  unfold readMember at h ⊢
  split at h
  · rename_i hkey
    rw [if_pos hkey]
    split at h
    · cases h
    · rename_i hfound
      obtain ⟨⟨code, t'⟩, hcode, h⟩ := Option.map_eq_some_iff.1 h
      cases h
      rw [if_neg hfound, readCode_extend hcode more, Option.map_some]
  · rename_i hkey
    obtain ⟨t', hskip, h⟩ := Option.map_eq_some_iff.1 h
    cases h
    rw [if_neg hkey, skipValue_extend hskip ht more, Option.map_some]

theorem readPair_extend (h : readPair found s = some (found', t)) (ht : t ≠ []) (more : Bytes) :
    readPair found (s ++ more) = some (found', t ++ more) := by
  unfold readPair at h
  split at h
  · rename_i key rest hkey
    split at h
    · rename_i rest' hcolon
      simp only [readPair, readString_extend hkey more, skipColon_extend hcolon more]
      exact readMember_extend h ht more
    · cases h
  · cases h

/-! ## Brackets -/

theorem readMembers_pair_extend {rest t₁ t₂ : Bytes} {c : UInt8} (hs : skipSpace s = 0x22 :: rest)
    (hp : readPair found rest = some (found', t₁)) (ht : skipSpace t₁ = c :: t₂) (more : Bytes) :
    readMembers found (s ++ more) =
      if c = 0x2c then readMembers found' (t₂ ++ more)
      else if c = 0x7d then some (found', t₂ ++ more) else none := by
  have hne : t₁ ≠ [] := by
    -- there is the octet `c`, so even a number ended before
    rintro rfl
    cases ht
  rw [readMembers_eq, skipSpace_extend hs more]
  simp only [if_true, readPair_extend hp hne more, Option.bind_some, skipSpace_extend ht more]

theorem readMembers_extend (h : readMembers found s = some (found', t)) (more : Bytes) :
    readMembers found (s ++ more) = some (found', t ++ more) := by
  fun_induction readMembers found s with
  | case1 => cases h
  | case2 => cases h
  | case3 => cases h
  | case4 found s rest found₁ t₁ hp t₂ _ hs _ ht _ ih =>
    rw [readMembers_pair_extend hs hp ht, if_pos rfl]
    exact ih h
  | case5 found s rest found₁ t₁ hp t₂ _ hs _ ht _ _ =>
    cases h
    rw [readMembers_pair_extend hs hp ht, if_neg (by decide), if_pos rfl]
  | case6 => cases h
  | case7 => cases h

theorem readObject_extend (h : readObject s = some (code, t)) (more : Bytes) :
    readObject (s ++ more) = some (code, t ++ more) := by
  unfold readObject at h
  split at h
  · cases h
  · rename_i b rest hs
    rw [readObject, skipSpace_extend hs more]
    simp only
    split at h
    · rename_i hb
      cases h
      rw [if_pos hb]
    · rename_i hb
      obtain ⟨⟨found, t'⟩, ht, h⟩ := Option.map_eq_some_iff.1 h
      cases h
      rw [if_neg hb, ← List.cons_append, readMembers_extend ht more, Option.map_some]

theorem readArray_extend (h : readArray s = some (code, t)) (more : Bytes) :
    readArray (s ++ more) = some (code, t ++ more) := by
  unfold readArray at h
  split at h
  · cases h
  · rename_i code' rest hcode
    split at h
    · cases h
    · rename_i b rest' hs
      simp only [readArray, readCode_extend hcode more, skipSpace_extend hs more]
      split at h
      · rename_i hb
        cases h
        rw [if_pos hb]
      · cases h

theorem readBracket_extend {b : UInt8}
    (h : (if b = 0x7b then readObject s else if b = 0x5b then readArray s else none) =
      some (code, t)) (more : Bytes) :
    (if b = 0x7b then readObject (s ++ more)
      else if b = 0x5b then readArray (s ++ more) else none) = some (code, t ++ more) := by
  split at h
  · rename_i hobject
    rw [if_pos hobject]
    exact readObject_extend h more
  · rename_i hobject
    rw [if_neg hobject]
    split at h
    · rename_i harray
      rw [if_pos harray]
      exact readArray_extend h more
    · cases h

/-! ## Bodies -/

/-- **A body and what follows it**: the body still counts, or what follows is no blank. -/
theorem readBody_append (h : readBody s = some code) (more : Bytes) :
    readBody (s ++ more) = if Blank more then some code else none := by
  unfold readBody at h
  split at h
  · cases h
  · rename_i b rest hs
    simp only at h
    split at h
    · rename_i code' rest' hvalue
      split at h
      · rename_i hend
        obtain rfl := Option.some.inj h
        rw [List.isEmpty_iff, skipSpace_eq_nil_iff] at hend
        rw [readBody, skipSpace_extend hs more]
        simp only [readBracket_extend hvalue more, List.isEmpty_iff, skipSpace_eq_nil_iff,
          blank_append_iff, hend, true_and]
      · cases h
    · cases h

end MissingFile

open MissingFile in
/-- **A primary that lacks a blob says so in a whole body.** Of two bodies that say so, one in front
of the other, the longer one only has more blanks. A body that says so does not say so any more with
an octet behind it that is no blank, nor without its end, if that is not blank. So a refusal whose
body is cut off, by the connection or by the limit, does not say so. -/
theorem missing_file_whole_body {status : Nat} {contentType? : Option String} {body : Bytes}
    (h : isPrimaryMissingFile status contentType? body = true) :
    (∀ more, isPrimaryMissingFile status contentType? (body ++ more) = true ↔ Json.Blank more) ∧
    (∀ front tail, front ++ tail = body → ¬Json.Blank tail →
      isPrimaryMissingFile status contentType? front = false) ∧
    ∀ url (response : Response) lost, response.status = status →
      response.contentType? = contentType? → received response.body ++ lost = body →
      ¬Json.Blank ((received response.body).drop 65536 ++ lost) →
      refusal url response = .httpStatus status response.reason url false := by
  have hmore : ∀ {front : Bytes}, isPrimaryMissingFile status contentType? front = true → ∀ tail,
      isPrimaryMissingFile status contentType? (front ++ tail) = true ↔ Json.Blank tail := by
    intro front hfront tail
    simp only [isPrimaryMissingFile, Bool.and_eq_true, beq_iff_eq] at hfront ⊢
    rw [readBody_append hfront.2 tail]
    simp [hfront.1]
  have hcut : ∀ front tail, front ++ tail = body → ¬Json.Blank tail →
      isPrimaryMissingFile status contentType? front = false := by
    -- a front that counts could only have blanks behind it, since `body` counts
    intro front tail hbody htail
    rw [Bool.eq_false_iff]
    intro hfront
    exact htail ((hmore hfront tail).1 (hbody ▸ h))
  refine ⟨hmore h, hcut, ?_⟩
  rintro url response lost rfl rfl hbody hlost
  rw [refusal_eq, hcut _ _ _ hlost]
  rw [← List.append_assoc]
  exact (congrArg (· ++ lost) (List.take_append_drop _ _)).trans hbody

/-- An answer that breaks off before its last bracket. -/
theorem missing_file_whole_body_bracket :
    isPrimaryMissingFile 404 (some "application/json") (octets "[\"FILE_NOT_FOUND\"]") = true ∧
      isPrimaryMissingFile 404 (some "application/json")
        (octets "[\"FILE_NOT_FOUND\"]" ++ octets "\r\n") = true ∧
      isPrimaryMissingFile 404 (some "application/json")
        (octets "[\"FILE_NOT_FOUND\"]" ++ octets "]") = false ∧
      refusal "http://primary" ⟨404, "Not Found", some "application/json",
          [.octets (octets "[\"FILE_NOT_"), .octets (octets "FOUND\""), .error "reset"]⟩ =
        .httpStatus 404 "Not Found" "http://primary" false := by
  have h : isPrimaryMissingFile 404 (some "application/json")
      (octets "[\"FILE_NOT_FOUND\"]") = true := by
    decide +kernel
  obtain ⟨hmore, -, hlost⟩ := missing_file_whole_body h
  have hblank : Json.Blank (octets "\r\n") := by decide
  have hbracket : ¬Json.Blank (octets "]") := by decide
  refine ⟨h, (hmore _).2 hblank, ?_, hlost _ _ (octets "]") rfl rfl (by decide) hbracket⟩
  rw [Bool.eq_false_iff]
  exact fun hextra => hbracket ((hmore _).1 hextra)

end Replica
