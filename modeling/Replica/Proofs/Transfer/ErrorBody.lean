import Mathlib.Data.List.Basic
import Replica.Proofs.Transfer.Fields

/-!
# The body of a refusal

An answer that is no success is read only as far as it can matter. Pieces are taken while less than
a limit has been seen, so the last of them may reach beyond it, and what is beyond is cut off. This
comes to the beginning of all that is received, wherever the cuts are.

* `take_readErrorBody`, **`errorBody_eq`**: what is looked at is the beginning of the body;
* `received_append`, `take_received_append`: what stands behind the limit, or behind an error, is
  not looked at;
* **`Downloader.result_of_refused`**: what an attempt makes of such an answer;
* **`Downloader.error_body_bounded`**.
-/

namespace Replica

/-! ## What is looked at -/

theorem take_readErrorBody (seen : Nat) (body : List Piece) :
    (readErrorBody seen body).1.take (errorBodyLimit - seen) =
      (received body).take (errorBodyLimit - seen) := by
  -- on the body: a piece takes its length off what is still looked at
  induction body generalizing seen with
  | nil => rfl
  | cons piece rest ih =>
    cases piece with
    | error text => rfl
    | octets bs =>
      rw [readErrorBody, received_octets]
      split
      · rw [List.take_append, List.take_append, Nat.sub_sub, ih]
      · rename_i h
        rw [Nat.sub_eq_zero_of_le (Nat.not_lt.1 h), List.take_zero, List.take_zero]

/-- **What is looked at is the beginning of the body**, up to the limit and to an error. -/
theorem errorBody_eq (body : List Piece) :
    errorBody body = (received body).take errorBodyLimit :=
  take_readErrorBody 0 body

theorem received_append (front back : List Piece) :
    received (front ++ back) =
      received front ++ if streamError? front = none then received back else [] := by
  induction front with
  | nil => rfl
  | cons piece front ih =>
    cases piece with
    | error text => rfl
    | octets bs =>
      rw [List.cons_append, received_octets, received_octets, ih, List.append_assoc]
      rfl

/-- **What stands behind the limit is not looked at**, octets or errors. -/
theorem take_received_append {front : List Piece} {limit : Nat}
    (h : limit ≤ (received front).length) (back : List Piece) :
    (received (front ++ back)).take limit = (received front).take limit := by
  rw [received_append, List.take_append_of_le_length h]

/-- **A refusal** with the beginning of the body. -/
theorem refusal_eq (url : String) (response : Response) :
    refusal url response =
      .httpStatus response.status response.reason url
        (isPrimaryMissingFile response.status response.contentType?
          ((received response.body).take errorBodyLimit)) := by
  rw [refusal, errorBody_eq]

theorem refusal_congr {response : Response} {body body' : List Piece}
    (h : (received body).take errorBodyLimit = (received body').take errorBodyLimit)
    (url : String) :
    refusal url { response with body } = refusal url { response with body := body' } := by
  simp only [refusal_eq, h]

namespace Downloader

variable {dl : Downloader} {b : Blob} {d : Disk} {response : Response}

/-- **An attempt that is refused** ends with the refusal. -/
theorem result_of_refused (hr : dl.Receives b d response) (hs : response.isSuccess = false) :
    ∃ url, (dl.execute b d).requests.map (·.1.url) = [url] ∧
      (dl.execute b d).result = (refusal url response).result := by
  obtain ⟨d₁, d₂, primary, temp, hp, hr⟩ := hr
  rw [hp.execute_eq, fetch]
  simp only [hr, download, hs]
  exact ⟨_, rfl, rfl⟩

theorem result_refusal (url : String) (response : Response) :
    (refusal url response).result.bytesDownloaded = 0 ∧
      (refusal url response).result.primaryMissingFile =
        isPrimaryMissingFile response.status response.contentType?
          ((received response.body).take errorBodyLimit) := by
  rw [refusal_eq]
  refine ⟨TransferError.bytesDownloaded_eq_zero (.inr (.inr ⟨_, _, _, _, rfl⟩)), ?_⟩
  rw [Bool.eq_iff_iff, TransferError.primaryMissingFile_result_iff]
  simp

/-- **The body of a refusal is bounded.** Whether a refusal says that the primary lacks the blob
depends on the first 65536 octets that are received before an error, and on nothing else of the
body: not on where it is cut, and not on what stands behind these octets. The status, the reason and
the address do not depend on the body at all, and no octets are counted. An attempt that gets such
an answer ends with it. -/
theorem error_body_bounded (response : Response) :
    (∀ url, refusal url response =
      .httpStatus response.status response.reason url
        (isPrimaryMissingFile response.status response.contentType?
          ((received response.body).take 65536))) ∧
    (∀ url body, (received body).take 65536 = (received response.body).take 65536 →
      refusal url { response with body } = refusal url response) ∧
    (∀ url front back back', 65536 ≤ (received front).length →
      refusal url { response with body := front ++ back } =
        refusal url { response with body := front ++ back' }) ∧
    (∀ url body, ∃ missing,
      refusal url { response with body } =
        .httpStatus response.status response.reason url missing ∧
      (refusal url { response with body }).bytesDownloaded = 0) ∧
    ∀ dl b d, Receives dl b d response → response.status < 200 ∨ 299 < response.status →
      ∃ url, (dl.execute b d).requests.map (·.1.url) = [url] ∧
        (dl.execute b d).result = (refusal url response).result ∧
        (dl.execute b d).result.bytesDownloaded = 0 ∧
        (dl.execute b d).result.primaryMissingFile =
          isPrimaryMissingFile response.status response.contentType?
            ((received response.body).take 65536) := by
  refine ⟨fun url => refusal_eq url response, fun url body h => refusal_congr h url, ?_,
    fun url body => ⟨_, rfl, rfl⟩, ?_⟩
  · intro url front back back' h
    apply refusal_congr
    exact (take_received_append h back).trans (take_received_append h back').symm
  · intro dl b d hr hrange
    have hs : response.isSuccess = false := by
      rw [Bool.eq_false_iff, ne_eq, isSuccess_iff]
      omega
    obtain ⟨url, hurl, hresult⟩ := result_of_refused hr hs
    obtain ⟨hbytes, hmissing⟩ := result_refusal url response
    rw [hresult]
    exact ⟨url, hurl, rfl, hbytes, hmissing⟩

/-- An answer in two pieces that the primary lacks a blob, which then breaks off. -/
def lackingAnswer : Response :=
  ⟨404, "Not Found", some "application/json",
    [.octets (octets "[\"FILE_"), .octets (octets "NOT_FOUND\"]"), .error "reset"]⟩

/-- A downloader that gets this answer. -/
def lackingPrimary : Downloader where
  client _ d := (d, .ok lackingAnswer)
  headers _ := []
  node := .secondary ⟨"http://primary"⟩
  flags := Dict.empty

/-- The code stands in two pieces, and an error behind it. -/
theorem error_body_bounded_two_pieces :
    lackingPrimary.Receives threeOctets Disk.empty lackingAnswer ∧ 299 < lackingAnswer.status ∧
      (lackingPrimary.execute threeOctets Disk.empty).result.primaryMissingFile = true := by
  obtain ⟨⟨d₂, temp⟩, hs⟩ : ∃ r, threeOctets.stage Disk.empty = .ok r := ⟨_, rfl⟩
  have hr : lackingPrimary.Receives threeOctets Disk.empty lackingAnswer :=
    ⟨Disk.empty, d₂, ⟨"http://primary"⟩, temp, ⟨rfl, hs⟩, rfl⟩
  have hstatus : 299 < lackingAnswer.status := by decide
  obtain ⟨-, -, -, -, hattempt⟩ := error_body_bounded lackingAnswer
  obtain ⟨url, -, -, -, hmissing⟩ := hattempt _ _ _ hr (.inr hstatus)
  refine ⟨hr, hstatus, hmissing.trans ?_⟩
  decide +kernel

end Downloader

end Replica
