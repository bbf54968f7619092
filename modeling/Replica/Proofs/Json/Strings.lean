import Mathlib.Data.List.Basic
import Replica.Proofs.Json.Grammar

/-!
# Strings are read back

Every way to write a string is skipped as one, and decoded to the same characters.

* `isPlain_of_mem_octets`: the octets of a character that stands for itself;
* `CodeUnit.codeUnit?_append`, `escape_letter`, `unicodeEscape_unit`, `unicodeEscape_pair`: escapes;
* `skipString_char`, `readOctets_char`: one written character;
* **`skipString_writes`**, **`readString_writes`**: a string behind its opening quote.
-/

namespace Replica.Json

/-! ## Octets -/

theorem octets_ofList (cs : List Char) :
    octets (String.ofList cs) = cs.flatMap String.utf8EncodeChar := by
  simp [octets, List.utf8Encode]

theorem octets_singleton (c : Char) : octets (String.singleton c) = String.utf8EncodeChar c := by
  rw [String.singleton_eq_ofList, octets_ofList, List.flatMap_singleton]

theorem octets_cons (c : Char) (cs : List Char) :
    octets (String.ofList (c :: cs)) =
      octets (String.singleton c) ++ octets (String.ofList cs) := by
  rw [octets_singleton, octets_ofList, octets_ofList, List.flatMap_cons]

/-- An octet that stands for itself in a string. -/
structure IsPlain (b : UInt8) : Prop where
  ne_quote : b ≠ 0x22
  ne_backslash : b ≠ 0x5c
  not_control : ¬b < 0x20

theorem isPlain_ofNat {n : Nat} (hn : n < 256) (h : 0x20 ≤ n) (hq : n ≠ 0x22) (hb : n ≠ 0x5c) :
    IsPlain (UInt8.ofNat n) := by
  have hval : (UInt8.ofNat n).toNat = n := by simp [Nat.mod_eq_of_lt hn]
  refine ⟨?_, ?_, ?_⟩
  · intro he
    exact hq (by rw [← hval, he]; rfl)
  · intro he
    exact hb (by rw [← hval, he]; rfl)
  · rw [UInt8.lt_iff_toNat_lt, hval]
    exact Nat.not_lt.2 h

theorem isPlain_of_mem_octets {c : Char} (hc : 0x20 ≤ c.toNat) (hq : c ≠ '"') (hb : c ≠ '\\')
    {b : UInt8} (h : b ∈ octets (String.singleton c)) : IsPlain b := by
  have hq' : c.toNat ≠ 0x22 := fun he => hq (Char.toNat_inj.1 he)
  have hb' : c.toNat ≠ 0x5c := fun he => hb (Char.toNat_inj.1 he)
  rw [octets_singleton, String.utf8EncodeChar] at h
  -- behind the first 128 characters, no octet is below 128
  have hlater : ∀ n, 128 ≤ n → n < 256 → IsPlain (UInt8.ofNat n) := fun n hlo hhi =>
    isPlain_ofNat hhi (by omega) (by omega) (by omega)
  change b ∈ if c.toNat ≤ 127 then [UInt8.ofNat c.toNat] else _ at h
  split at h
  · rename_i hle
    rw [List.mem_singleton.1 h]
    exact isPlain_ofNat (by omega) hc hq' hb'
  · split at h
    · simp only [List.mem_cons, List.not_mem_nil, or_false] at h
      rcases h with rfl | rfl <;> exact hlater _ (by omega) (by omega)
    · split at h
      · simp only [List.mem_cons, List.not_mem_nil, or_false] at h
        rcases h with rfl | rfl | rfl <;> exact hlater _ (by omega) (by omega)
      · simp only [List.mem_cons, List.not_mem_nil, or_false] at h
        rcases h with rfl | rfl | rfl | rfl <;> exact hlater _ (by omega) (by omega)

theorem skipString_plain {bs : Bytes} (h : ∀ b ∈ bs, IsPlain b) (rest : Bytes) :
    skipString (bs ++ rest) = skipString rest := by
  induction bs with
  | nil => rfl
  | cons b bs ih =>
    have hb := h b List.mem_cons_self
    rw [List.cons_append, skipString, if_neg hb.ne_quote, if_neg hb.ne_backslash,
      if_neg hb.not_control]
    exact ih fun b' hb' => h b' (List.mem_cons_of_mem _ hb')

theorem readOctets_plain {bs : Bytes} (h : ∀ b ∈ bs, IsPlain b) (acc rest : Bytes) :
    readOctets acc (bs ++ rest) = readOctets (bs.reverse ++ acc) rest := by
  induction bs generalizing acc with
  | nil => rfl
  | cons b bs ih =>
    have hb := h b List.mem_cons_self
    rw [List.cons_append, readOctets, if_neg hb.ne_quote, if_neg hb.ne_backslash,
      if_neg hb.not_control, ih fun b' hb' => h b' (List.mem_cons_of_mem _ hb'),
      List.reverse_cons, List.append_assoc]
    rfl

/-! ## Escapes -/

theorem HexDigit.hexValue?_eq {b : UInt8} {v : Nat} (h : HexDigit b v) :
    hexValue? b = some v := by
  have hdecimal : ∀ v < 10, hexValue? (UInt8.ofNat (0x30 + v)) = some v := by decide
  have hsmall : ∀ v < 6, hexValue? (UInt8.ofNat (0x61 + v)) = some (10 + v) := by decide
  have hcapital : ∀ v < 6, hexValue? (UInt8.ofNat (0x41 + v)) = some (10 + v) := by decide
  cases h with
  | decimal h => exact hdecimal _ h
  | small h => exact hsmall _ h
  | capital h => exact hcapital _ h

variable {s t : Bytes} {n : Nat} {c : Char} {b : UInt8}

theorem CodeUnit.codeUnit?_append (h : CodeUnit s n) (rest : Bytes) :
    codeUnit? (s ++ rest) = some (n, rest) := by
  obtain ⟨ha, hb, hc, hd⟩ := h
  simp [codeUnit?, ha.hexValue?_eq, hb.hexValue?_eq, hc.hexValue?_eq, hd.hexValue?_eq]

theorem CodeUnit.skipEscape_append (h : CodeUnit s n) (rest : Bytes) :
    skipEscape (0x75 :: (s ++ rest)) = some rest := by
  obtain ⟨ha, hb, hc, hd⟩ := h
  simp [skipEscape, ha.hexValue?_eq, hb.hexValue?_eq, hc.hexValue?_eq, hd.hexValue?_eq]

theorem escape_letter (h : (c, b) ∈ letters) (rest : Bytes) :
    skipEscape (b :: rest) = some rest ∧ readEscape (b :: rest) = some (c, rest) := by
  have hall : ∀ e ∈ letters,
      e.2 ≠ 0x75 ∧ isShortEscape e.2 = true ∧ shortEscape? e.2 = some e.1 := by decide
  obtain ⟨hne, hs, hr⟩ : b ≠ 0x75 ∧ isShortEscape b = true ∧ shortEscape? b = some c := hall _ h
  constructor
  · simp [skipEscape, hne, hs]
  · rw [readEscape, if_neg hne, hr, Option.map_some]

theorem unicodeEscape_unit (h : CodeUnit s c.toNat) (rest : Bytes) :
    unicodeEscape (s ++ rest) = some (c, rest) := by
  have hscalar : c.toNat < 0xd800 ∨ 0xdfff < c.toNat := by
    rcases c.valid with hv | ⟨hv, -⟩
    · exact .inl hv
    · exact .inr hv
  rw [unicodeEscape, h.codeUnit?_append]
  simp only
  rw [if_pos hscalar, Char.ofNat_toNat]

theorem unicodeEscape_pair {high low : Nat} (hs : CodeUnit s high) (ht : CodeUnit t low)
    (hh : 0xd800 ≤ high ∧ high < 0xdc00) (hl : 0xdc00 ≤ low ∧ low < 0xe000)
    (hc : c.toNat = 0x10000 + (high - 0xd800) * 0x400 + (low - 0xdc00)) (rest : Bytes) :
    unicodeEscape (s ++ (0x5c :: 0x75 :: (t ++ rest))) = some (c, rest) := by
  rw [unicodeEscape, hs.codeUnit?_append]
  simp only
  rw [if_neg (by omega), if_neg (by omega), ht.codeUnit?_append]
  simp only
  rw [if_pos (by omega), ← hc, Char.ofNat_toNat]

theorem skipString_escape {rest : Bytes} (h : skipEscape s = some rest) :
    skipString (0x5c :: s) = skipString rest := by
  rw [skipString, if_neg (by decide), if_pos rfl]
  split
  · rename_i rest' h'
    rw [Option.some.inj (h.symm.trans h')]
  · rename_i h'
    rw [h] at h'
    cases h'

theorem readOctets_escape {rest : Bytes} (h : readEscape s = some (c, rest)) (acc : Bytes) :
    readOctets acc (0x5c :: s) =
      readOctets ((octets (String.singleton c)).reverse ++ acc) rest := by
  rw [readOctets, if_neg (by decide), if_pos rfl]
  split
  · rename_i c' rest' h'
    obtain ⟨rfl, rfl⟩ := Prod.mk.inj (Option.some.inj (h.symm.trans h'))
    rfl
  · rename_i h'
    rw [h] at h'
    cases h'

/-! ## Characters -/

theorem skipString_char (h : WritesChar c s) (rest : Bytes) :
    skipString (s ++ rest) = skipString rest := by
  cases h with
  | plain hc hq hb => exact skipString_plain (fun b => isPlain_of_mem_octets hc hq hb) rest
  | letter h => exact skipString_escape (escape_letter h rest).1
  | unit h => exact skipString_escape (h.skipEscape_append rest)
  | pair hs ht =>
    rw [List.append_assoc]
    exact (skipString_escape (hs.skipEscape_append _)).trans
      (skipString_escape (ht.skipEscape_append rest))

theorem readOctets_char (h : WritesChar c s) (acc rest : Bytes) :
    readOctets acc (s ++ rest) =
      readOctets ((octets (String.singleton c)).reverse ++ acc) rest := by
  have hcode : ∀ s, readEscape (0x75 :: s) = unicodeEscape s := fun s => by
    rw [readEscape, if_pos rfl]
  cases h with
  | plain hc hq hb => exact readOctets_plain (fun b => isPlain_of_mem_octets hc hq hb) acc rest
  | letter h => exact readOctets_escape (escape_letter h rest).2 acc
  | unit h =>
    exact readOctets_escape ((hcode _).trans (unicodeEscape_unit h rest)) acc
  | pair hs ht hh hl hc =>
    rw [List.append_assoc]
    exact readOctets_escape ((hcode _).trans (unicodeEscape_pair hs ht hh hl hc rest)) acc

/-! ## Strings -/

theorem writesChars_octets {cs : List Char}
    (h : ∀ c ∈ cs, 0x20 ≤ c.toNat ∧ c ≠ '"' ∧ c ≠ '\\') :
    WritesChars cs (octets (String.ofList cs)) := by
  induction cs with
  | nil => exact .nil
  | cons c cs ih =>
    obtain ⟨hc, hq, hb⟩ := h c List.mem_cons_self
    rw [octets_cons]
    exact .cons (.plain hc hq hb) (ih fun c' hc' => h c' (List.mem_cons_of_mem _ hc'))

theorem WritesChars.append {cs ds : List Char} (hs : WritesChars cs s) (ht : WritesChars ds t) :
    WritesChars (cs ++ ds) (s ++ t) := by
  induction hs with
  | nil => exact ht
  | cons h _ ih =>
    rw [List.append_assoc]
    exact .cons h ih

/-- **A written string is skipped.** -/
theorem skipString_writes {cs : List Char} (h : WritesChars cs s) (rest : Bytes) :
    skipString (s ++ 0x22 :: rest) = some rest := by
  induction h with
  | nil => rw [List.nil_append, skipString, if_pos rfl]
  | cons h _ ih => rw [List.append_assoc, skipString_char h, ih]

theorem readOctets_writes {cs : List Char} (h : WritesChars cs s) (acc rest : Bytes) :
    readOctets acc (s ++ 0x22 :: rest) =
      some ((octets (String.ofList cs)).reverse ++ acc, rest) := by
  induction h generalizing acc with
  | nil =>
    rw [List.nil_append, readOctets, if_pos rfl]
    rfl
  | cons h _ ih =>
    rw [List.append_assoc, readOctets_char h, ih, octets_cons, List.reverse_append,
      List.append_assoc]

/-- **A written string is read back.** -/
theorem readString_writes {text : String} (h : WritesChars text.toList s) (rest : Bytes) :
    readString (s ++ 0x22 :: rest) = some (text, rest) := by
  have hoctets := readOctets_writes h [] rest
  rw [String.ofList_toList, List.append_nil] at hoctets
  simp only [readString, hoctets, List.reverse_reverse, text?_octets]

end Replica.Json
