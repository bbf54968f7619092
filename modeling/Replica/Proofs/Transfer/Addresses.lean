import Mathlib.Data.List.Basic
import Replica.Proofs.Disk.Paths
import Replica.Proofs.Transfer.Promotion

/-!
# Addresses of primaries and of blobs

The address of a blob is that of its primary, the name of its kind and the number of its record. The
name stands there as it is, with slashes and digits of its own; the number is what is behind the
last slash.

* `slashes`, **`Primary.ofUrl_eq_iff`**: a primary is an address without the slashes at its end;
* **`Resource.text_inj`**, **`Primary.urlOf_inj`**: no two blobs have one text, or one address;
* `Downloader.url_of_mem_requests`: a request is for the address of its blob;
* **`addresses_identify`**.
-/

namespace Replica

/-- So many slashes. -/
def slashes (n : Nat) : String := String.ofList (List.replicate n '/')

theorem slashes_append (m n : Nat) : slashes m ++ slashes n = slashes (m + n) := by
  rw [slashes, slashes, slashes, ← String.ofList_append, List.replicate_append_replicate]

/-! ## Primaries -/

namespace Primary

variable {u v : String} {p : Primary}

/-- **The primary at an address** has the address without the slashes at its end. -/
theorem ofUrl_eq_iff :
    ofUrl u = p ↔ (∃ n, u = p.url ++ slashes n) ∧ p.url.toList.getLast? ≠ some '/' := by
  have hurl : ofUrl u = p ↔ Text.dropEndWhile (· == '/') u.toList = p.url.toList := by
    obtain ⟨url⟩ := p
    rw [ofUrl, Primary.mk.injEq, ← String.toList_inj, String.toList_ofList]
  have hslashes : (∃ n, u = p.url ++ slashes n) ↔
      ∃ dropped, u.toList = p.url.toList ++ dropped ∧ ∀ c ∈ dropped, (c == '/') = true := by
    simp only [← String.toList_inj, String.toList_append, slashes, String.toList_ofList, beq_iff_eq]
    constructor
    · rintro ⟨n, h⟩
      exact ⟨_, h, fun c hc => List.eq_of_mem_replicate hc⟩
    · rintro ⟨dropped, h, hd⟩
      exact ⟨dropped.length, h.trans (by rw [← List.eq_replicate_of_mem hd])⟩
  rw [hurl, hslashes, Text.dropEndWhile_eq_iff]
  refine and_congr_right fun _ => ⟨fun h he => ?_, fun h c hc => ?_⟩
  · exact absurd (h '/' he) (by decide)
  · exact beq_eq_false_iff_ne.2 fun he => h (he ▸ hc)

theorem exists_slashes (u : String) :
    (∃ n, u = (ofUrl u).url ++ slashes n) ∧ (ofUrl u).url.toList.getLast? ≠ some '/' :=
  ofUrl_eq_iff.1 rfl

theorem ofUrl_append_slashes (u : String) (n : Nat) : ofUrl (u ++ slashes n) = ofUrl u := by
  obtain ⟨⟨m, hm⟩, hlast⟩ := exists_slashes u
  refine ofUrl_eq_iff.2 ⟨⟨m + n, ?_⟩, hlast⟩
  calc u ++ slashes n = (ofUrl u).url ++ slashes m ++ slashes n := by rw [← hm]
    _ = (ofUrl u).url ++ slashes (m + n) := by rw [String.append_assoc, slashes_append]

theorem ofUrl_url (u : String) : ofUrl (ofUrl u).url = ofUrl u := by
  obtain ⟨⟨n, hn⟩, -⟩ := exists_slashes u
  calc ofUrl (ofUrl u).url = ofUrl ((ofUrl u).url ++ slashes n) := (ofUrl_append_slashes _ n).symm
    _ = ofUrl u := by rw [← hn]

/-- **Two addresses are of one primary** if they differ in slashes at their end alone. -/
theorem ofUrl_inj :
    ofUrl u = ofUrl v ↔ ∃ stem m n, u = stem ++ slashes m ∧ v = stem ++ slashes n := by
  constructor
  · intro h
    obtain ⟨⟨m, hm⟩, -⟩ := exists_slashes u
    obtain ⟨⟨n, hn⟩, -⟩ := exists_slashes v
    exact ⟨(ofUrl u).url, m, n, hm, h ▸ hn⟩
  · rintro ⟨stem, m, n, rfl, rfl⟩
    rw [ofUrl_append_slashes, ofUrl_append_slashes]

end Primary

/-! ## Blobs -/

/-- **No two blobs have one text**: the number of the record is behind the last slash. -/
theorem Resource.text_inj {r r' : Resource} : r.text = r'.text ↔ r = r' := by
  have htext : ∀ r : Resource,
      r.text.toList = r.kind.toList ++ '/' :: (natText r.record).toList := fun r => by
    rw [text, String.toList_append, String.toList_append, List.append_assoc]
    rfl
  have hslash : ∀ n, '/' ∉ (natText n).toList := fun n h =>
    absurd (isDigit_of_mem_natText h) (by decide)
  rw [← String.toList_inj, htext, htext, Path.append_slash_inj (hslash _) (hslash _),
    String.toList_inj, String.toList_inj, natText_inj]
  obtain ⟨kind, record⟩ := r
  obtain ⟨kind', record'⟩ := r'
  rw [Resource.mk.injEq]

theorem Primary.urlOf_eq (p : Primary) (r : Resource) :
    p.urlOf r = p.url ++ ("/api/v4/geo/retrieve/" ++ r.text) := by
  simp only [urlOf, Resource.text, String.append_assoc]

/-- **No two blobs have one address** on a primary. -/
theorem Primary.urlOf_inj {p : Primary} {r r' : Resource} : p.urlOf r = p.urlOf r' ↔ r = r' := by
  rw [urlOf_eq, urlOf_eq, ← Resource.text_inj]
  simp only [← String.toList_inj, String.toList_append, List.append_cancel_left_eq]

/-! ## Requests -/

namespace Downloader

variable {dl : Downloader} {b : Blob} {d d' : Disk} {q : Request × Disk}

theorem primary?_of_checkPreconditions {node : Node} {storage : Storage} {primary : Primary}
    (h : checkPreconditions node storage d = (d', .ok primary)) :
    node.isSecondary = true ∧ node.primary? = some primary := by
  rw [checkPreconditions] at h
  split at h
  · rename_i hrole
    refine ⟨hrole, ?_⟩
    split at h
    · cases h
    · rename_i known hknown
      rw [hknown]
      split at h
      · exact congrArg some (Except.ok.inj (Prod.mk.inj h).2)
      · rename_i path _
        have hdest := (Prod.mk.inj h).2
        cases hr : (checkDestination path d).2 with
        | ok u =>
          rw [hr] at hdest
          exact congrArg some (Except.ok.inj hdest)
        | error e =>
          rw [hr] at hdest
          cases hdest
  · cases h

/-- **A request is for the address of its blob**, and made by a secondary. -/
theorem url_of_mem_requests (h : q ∈ (dl.execute b d).requests) :
    dl.node.isSecondary = true ∧
      ∃ primary, dl.node.primary? = some primary ∧ q.1.url = primary.urlOf b.resource := by
  rcases execute_cases dl b d with ⟨e, hex, -⟩ | ⟨d₁, d₂, primary, temp, hp⟩
  · rw [hex] at h
    exact absurd h List.not_mem_nil
  · rw [hp.execute_eq] at h
    obtain ⟨hrole, hknown⟩ := primary?_of_checkPreconditions hp.preconditions
    exact ⟨hrole, primary, hknown, congrArg (·.1.url) (List.mem_singleton.1 h)⟩

end Downloader

/-- **Addresses identify primaries and blobs.** Slashes at the end of an address do not count, and
nothing else is disregarded: two addresses are of one primary if and only if they differ in such
slashes alone, and a primary is that at its own address. On one primary, two blobs have one address
if and only if they are one blob, whatever slashes and digits their names have, and the same holds
for their texts. So requests of nodes with the same primary are for one address if and only if they
are for one blob. -/
theorem addresses_identify :
    (∀ (u : String) (n : Nat), Primary.ofUrl (u ++ slashes n) = Primary.ofUrl u) ∧
    (∀ u, Primary.ofUrl (Primary.ofUrl u).url = Primary.ofUrl u) ∧
    (∀ u v, Primary.ofUrl u = Primary.ofUrl v ↔
      ∃ stem m n, u = stem ++ slashes m ∧ v = stem ++ slashes n) ∧
    (∀ (p : Primary) (r r' : Resource), p.urlOf r = p.urlOf r' ↔ r = r') ∧
    (∀ r r' : Resource, r.text = r'.text ↔ r = r') ∧
    ∀ (dl dl' : Downloader) (b b' : Blob) (d d' : Disk), dl.node.primary? = dl'.node.primary? →
      ∀ q ∈ (dl.execute b d).requests, ∀ q' ∈ (dl'.execute b' d').requests,
        (q.1.url = q'.1.url ↔ b.resource = b'.resource) := by
  refine ⟨Primary.ofUrl_append_slashes, Primary.ofUrl_url, fun _ _ => Primary.ofUrl_inj,
    fun _ _ _ => Primary.urlOf_inj, fun _ _ => Resource.text_inj, ?_⟩
  intro dl dl' b b' d d' hsame q hq q' hq'
  obtain ⟨-, primary, hknown, hurl⟩ := Downloader.url_of_mem_requests hq
  obtain ⟨-, primary', hknown', hurl'⟩ := Downloader.url_of_mem_requests hq'
  obtain rfl : primary = primary' := Option.some.inj (hknown.symm.trans (hsame.trans hknown'))
  rw [hurl, hurl', Primary.urlOf_inj]

/-- A blob of a kind with a slash and a digit in its name. -/
def slashedKind : Blob := ⟨⟨"upload/1", 1⟩, none, .file "/slashed"⟩

/-- A blob of a kind with the first part of that name, and the digits on both sides of the slash as
its number. -/
def plainKind : Blob := ⟨⟨"upload", 11⟩, none, .file "/plain"⟩

/-- Two blobs whose addresses differ in one slash. -/
theorem addresses_identify_slashed_kind :
    let dl := Downloader.twoPieces
    dl.node.primary? = dl.node.primary? ∧
      ∃ q q', (dl.execute slashedKind Disk.empty).requests = [q] ∧
        (dl.execute plainKind Disk.empty).requests = [q'] ∧ q.1.url ≠ q'.1.url := by
  intro dl
  have hone : (dl.execute slashedKind Disk.empty).requests.length = 1 := by decide +kernel
  have hone' : (dl.execute plainKind Disk.empty).requests.length = 1 := by decide +kernel
  obtain ⟨q, hq⟩ := List.length_eq_one_iff.1 hone
  obtain ⟨q', hq'⟩ := List.length_eq_one_iff.1 hone'
  refine ⟨rfl, q, q', hq, hq', fun he => ?_⟩
  obtain ⟨-, -, -, -, -, hrequests⟩ := addresses_identify
  have hsame := (hrequests dl dl slashedKind plainKind Disk.empty Disk.empty rfl q (by simp [hq])
    q' (by simp [hq'])).1 he
  exact absurd hsame (by decide)

end Replica
