import Mathlib.Data.List.Basic
import Replica.Proofs.Transfer.States

/-!
# How a body is cut

The pieces in which a body arrives are written, counted and digested one by one. What is seen of an
attempt does not depend on where the cuts are.

* **`appendTemp_append`**: octets written to a temporary file in two parts;
* `receive_eq_append`: a body is written as if it were one piece;
* `SameBody`, `SameAnswer`, `Client.Recuts`: bodies, answers and clients that differ only in the
  cuts;
* `save_recut`, **`execute_recut`**: an attempt but for the number of pieces that it takes;
* `execute_broken`: an attempt whose body ends in an error;
* **`cutting_invisible`**.
-/

namespace Replica

/-! ## Writing in parts -/

namespace Disk

theorem overwrite_nil {old : Bytes} {offset : Nat} (h : offset ≤ old.length) :
    overwrite old offset [] = old := by
  rw [overwrite]
  split
  · rw [Nat.sub_eq_zero_of_le h]
    simp
  · simp

theorem le_length_overwrite {old : Bytes} {offset : Nat} (h : offset ≤ old.length) (bs : Bytes) :
    offset + bs.length ≤ (overwrite old offset bs).length := by
  rw [overwrite]
  split
  · simp only [List.length_append, List.length_replicate]
    omega
  · simp only [List.length_append, List.length_take, List.length_drop]
    omega

theorem overwrite_append {old : Bytes} {offset : Nat} (h : offset ≤ old.length) (as bs : Bytes) :
    overwrite (overwrite old offset as) (offset + as.length) bs =
      overwrite old offset (as ++ bs) := by
  -- what is behind the first part is what was there behind it, if anything was
  have hfirst : overwrite old offset as =
      (old.take offset ++ as) ++ old.drop (offset + as.length) := by
    rw [overwrite]
    split
    · have he : offset = old.length := by omega
      rw [he, List.take_length, List.drop_eq_nil_of_le (by omega)]
      simp
    · rfl
  have hlen : (old.take offset ++ as).length = offset + as.length := by
    rw [List.length_append, List.length_take, Nat.min_eq_left h]
  have hsecond : overwrite old offset (as ++ bs) =
      (old.take offset ++ as) ++ bs ++ old.drop (offset + as.length + bs.length) := by
    rw [overwrite]
    split
    · have he : offset = old.length := by omega
      rw [he, List.take_length, List.drop_eq_nil_of_le (by omega)]
      simp
    · simp [Nat.add_assoc]
  rw [hsecond, hfirst, overwrite]
  split
  · rename_i hle
    rw [List.length_append, hlen, List.length_drop] at hle
    have hnone : old.drop (offset + as.length) = [] := List.drop_eq_nil_of_le (by omega)
    have hnone' : old.drop (offset + as.length + bs.length) = [] :=
      List.drop_eq_nil_of_le (by omega)
    rw [hnone, hnone', List.append_nil, hlen, Nat.sub_self]
    simp
  · rw [List.take_left' hlen, List.drop_append, hlen, Nat.add_sub_cancel_left,
      List.drop_eq_nil_of_le (by rw [hlen]; omega), List.nil_append, List.drop_drop]

theorem setContent_of_le {d : Disk} {id : Nat} (h : d.files.length ≤ id) (bs : Bytes) :
    d.setContent id bs = d := by
  rw [setContent, List.set_eq_of_length_le h]

end Disk

/-- The next octets are written within the file or right behind it, if the file is there. -/
def TempFile.Fits (t : TempFile) (d : Disk) : Prop :=
  d.files.length ≤ t.id ∨ t.offset ≤ (d.content t.id).length

section

variable {d : Disk} {temp : TempFile}

theorem TempFile.Fits.of_offset (h : temp.offset = 0) (d : Disk) : temp.Fits d :=
  .inr (h ▸ Nat.zero_le _)

theorem TempFile.Fits.append (h : temp.Fits d) (bs : Bytes) :
    (d.appendTemp temp bs).2.Fits (d.appendTemp temp bs).1 := by
  rcases Nat.lt_or_ge temp.id d.files.length with hid | hid
  · have hle := h.resolve_left (Nat.not_le.2 hid)
    right
    rw [Disk.appendTemp, Disk.content_setContent _ _ _ hid, if_pos rfl]
    exact Disk.le_length_overwrite hle bs
  · left
    rw [Disk.appendTemp, Disk.setContent_of_le hid]
    exact hid

theorem Disk.appendTemp_nil (h : temp.Fits d) : d.appendTemp temp [] = (d, temp) := by
  rcases Nat.lt_or_ge temp.id d.files.length with hid | hid
  · have hle := h.resolve_left (Nat.not_le.2 hid)
    rw [appendTemp, overwrite_nil hle, setContent_content hid]
    rfl
  · rw [appendTemp, setContent_of_le hid]
    rfl

/-- **Octets written in two parts** to a temporary file. -/
theorem Disk.appendTemp_append (h : temp.Fits d) (as bs : Bytes) :
    (d.appendTemp temp as).1.appendTemp (d.appendTemp temp as).2 bs =
      d.appendTemp temp (as ++ bs) := by
  rcases Nat.lt_or_ge temp.id d.files.length with hid | hid
  · have hle := h.resolve_left (Nat.not_le.2 hid)
    rw [appendTemp, appendTemp, appendTemp, content_setContent _ _ _ hid, if_pos rfl,
      setContent_setContent hid, overwrite_append hle, List.length_append, Nat.add_assoc]
  · simp only [appendTemp, setContent_of_le hid, List.length_append, Nat.add_assoc]

/-- **A body is written as one piece** would be. -/
theorem receive_eq_append (h : temp.Fits d) (hasher? : Option Sha256.Hasher) (body : List Piece) :
    ∃ taken, receive d temp hasher? body =
      { disk := (d.appendTemp temp (received body)).1
        temp := (d.appendTemp temp (received body)).2
        hasher? := hasher?.map (·.updateAll (receivedPieces body))
        bytes := (received body).length
        taken
        error? := streamError? body } := by
  -- on the body: after every piece the next one fits
  induction body generalizing d temp hasher? with
  | nil =>
    refine ⟨0, ?_⟩
    rw [received_nil, Disk.appendTemp_nil h]
    cases hasher? <;> rfl
  | cons piece rest ih =>
    cases piece with
    | error text =>
      refine ⟨1, ?_⟩
      rw [received_error, Disk.appendTemp_nil h]
      cases hasher? <;> rfl
    | octets bs =>
      obtain ⟨taken, hrest⟩ := ih (h.append bs) (hasher?.map (·.update bs))
      refine ⟨taken + 1, ?_⟩
      rw [receive]
      simp only [hrest, received_octets, List.length_append, Disk.appendTemp_append h,
        Option.map_map]
      rfl

end

/-! ## Other cuts -/

/-- **The same body in other pieces**: the octets up to its end or its error, and that error. -/
structure SameBody (body body' : List Piece) : Prop where
  received_eq : received body' = received body
  streamError?_eq : streamError? body' = streamError? body

/-- The same answer, but for the cuts in the body of a success. -/
inductive SameAnswer : Except String Response → Except String Response → Prop
  | refl (answer : Except String Response) : SameAnswer answer answer
  | recut {response : Response} {body : List Piece} (success : response.isSuccess = true)
      (h : SameBody response.body body) : SameAnswer (.ok response) (.ok { response with body })

/-- **A client that cuts bodies elsewhere**, and does the same otherwise. -/
def Client.Recuts (client client' : Client) : Prop :=
  ∀ request d, (client' request d).1 = (client request d).1 ∧
    SameAnswer (client request d).2 (client' request d).2

/-! ## Downloads -/

section

variable {d : Disk} {temp : TempFile} {gate : ChecksumGate} {storage : Storage} {url : String}
  {response : Response} {body : List Piece}

theorem verifyAndPromote_congr {r r' : Received} (hdisk : r'.disk = r.disk)
    (htemp : r'.temp = r.temp)
    (hdigest : r'.hasher?.map (·.finishHex) = r.hasher?.map (·.finishHex)) :
    verifyAndPromote gate storage r' =
      { verifyAndPromote gate storage r with taken := r'.taken } := by
  cases hh : r.hasher? with
  | none =>
    have hh' : r'.hasher? = none := by simpa [hh] using hdigest
    simp only [verifyAndPromote, hh, hh', promote, hdisk, htemp]
  | some hasher =>
    obtain ⟨hasher', hh', hhex⟩ : ∃ hasher', r'.hasher? = some hasher' ∧
        hasher'.finishHex = hasher.finishHex := by
      rw [hh, Option.map_some] at hdigest
      exact Option.map_eq_some_iff.1 hdigest
    simp only [verifyAndPromote, hh, hh', hhex, promote, hdisk, htemp]
    split <;> rfl

theorem SameBody.digest_eq (h : SameBody response.body body) (gate : ChecksumGate) :
    (gate.hasherOf? body).map (·.finishHex) = (gate.hasherOf? response.body).map (·.finishHex) := by
  rw [ChecksumGate.hasherOf?, ChecksumGate.hasherOf?]
  cases gate.isRequired with
  | false => rfl
  | true =>
    have hflat : (receivedPieces body).flatten = (receivedPieces response.body).flatten :=
      h.received_eq
    simp only [if_true, Option.map_some, Sha256.Hasher.finishHex_updateAll, hflat]

/-- **What is received** but for the state of the hasher, which has the same digest. -/
theorem receive_recut (hf : temp.Fits d) (h : SameBody response.body body) (gate : ChecksumGate) :
    let hasher? := if gate.isRequired then some Sha256.Hasher.new else none
    ∃ hasher?' taken, hasher?'.map (·.finishHex) =
        (receive d temp hasher? response.body).hasher?.map (·.finishHex) ∧
      receive d temp hasher? body =
        { receive d temp hasher? response.body with hasher? := hasher?', taken } := by
  intro hasher?
  obtain ⟨taken, hr⟩ := receive_eq_append hf hasher? response.body
  obtain ⟨taken', hr'⟩ := receive_eq_append hf hasher? body
  rw [hr, hr', h.received_eq, h.streamError?_eq]
  exact ⟨_, _, h.digest_eq gate, rfl⟩

/-- **What is saved of a body** does not depend on the cuts. -/
theorem save_recut (hf : temp.Fits d) (h : SameBody response.body body) (gate : ChecksumGate)
    (storage : Storage) (url : String) :
    ∃ taken, save gate storage url temp { response with body } d =
      { save gate storage url temp response d with taken } := by
  obtain ⟨hasher?', taken, hdigest, hr⟩ := receive_recut hf h gate
  refine ⟨taken, ?_⟩
  rw [save, save]
  simp only [hr]
  generalize receive d temp (if gate.isRequired then some Sha256.Hasher.new else none)
    response.body = r at hdigest
  cases r.error? with
  | some text => rfl
  | none =>
    have hv : verifyAndPromote gate storage { r with hasher? := hasher?', taken, error? := none } =
        { verifyAndPromote gate storage r with taken } := verifyAndPromote_congr rfl rfl hdigest
    simp only [hv]

theorem download_recut (hf : temp.Fits d) {answer answer' : Except String Response}
    (h : SameAnswer answer answer') (gate : ChecksumGate) (storage : Storage) (url : String) :
    ∃ taken, download gate storage url temp answer' d =
      { download gate storage url temp answer d with taken } := by
  cases h with
  | refl => exact ⟨_, rfl⟩
  | @recut response body hs hb =>
    have hs' : ({ response with body } : Response).isSuccess = true := hs
    rw [download, download, if_pos hs, if_pos hs']
    exact save_recut hf hb gate storage url

theorem download_broken (hf : temp.Fits d) (hs : response.isSuccess = true) {text : String}
    (hc : streamError? response.body = some text) (gate : ChecksumGate) (storage : Storage)
    (url : String) :
    (download gate storage url temp (.ok response) d).outcome =
        .error (.download url (received response.body).length (.text text)) ∧
      (download gate storage url temp (.ok response) d).promotions = [] := by
  obtain ⟨taken, hr⟩ := receive_eq_append hf
    (if gate.isRequired then some Sha256.Hasher.new else none) response.body
  rw [hc] at hr
  rw [download, if_pos hs, save]
  simp only [hr, and_self]

end

/-! ## Attempts -/

namespace TransferError

theorem bytesDownloaded_result (e : TransferError) :
    e.result.bytesDownloaded = e.bytesDownloaded := by
  rw [result, TransferResult.withDetails]
  simp only [TransferResult.withBytesDownloaded, TransferResult.failed]
  split <;> rfl

theorem details?_result (e : TransferError) (h : e.details.isEmpty = false) :
    e.result.details? = some e.details := by
  rw [result, TransferResult.withDetails]
  simp only [TransferResult.withBytesDownloaded, TransferResult.failed, h]
  rfl

end TransferError

namespace Downloader

variable {dl : Downloader} {b : Blob} {d d₁ d₂ : Disk} {primary : Primary} {temp : TempFile}
  {client : Client} {response : Response}

theorem Prepared.fits (h : dl.Prepared b d d₁ d₂ primary temp) (d' : Disk) : temp.Fits d' :=
  .of_offset (Blob.staged_of_stage h.staged).1 d'

/-- **An attempt does not depend on the cuts**, but for the number of pieces that it takes. -/
theorem execute_recut (h : dl.client.Recuts client) (b : Blob) (d : Disk) :
    ∃ taken, ({ dl with client } : Downloader).execute b d =
      { dl.execute b d with taken } := by
  rcases execute_cases dl b d with ⟨e, -, hnot⟩ | ⟨d₁, d₂, primary, temp, hp⟩
  · -- without a request no client is called
    refine ⟨(dl.execute b d).taken, ?_⟩
    simp only [execute]
    rcases hpre : checkPreconditions dl.node b.storage d with ⟨d₁, e | primary⟩
    · rfl
    · cases hstage : b.stage d₁ with
      | error e => simp only [hstage]
      | ok r => exact absurd ⟨hpre, hstage⟩ (hnot d₁ r.1 primary r.2)
  · have hp' : ({ dl with client } : Downloader).Prepared b d d₁ d₂ primary temp :=
      ⟨hp.preconditions, hp.staged⟩
    obtain ⟨hdisk, hanswer⟩ := h (dl.request primary b) d₂
    obtain ⟨taken, hd⟩ := download_recut (hp.fits (dl.client (dl.request primary b) d₂).1) hanswer
      (dl.gate b) b.storage (dl.request primary b).url
    refine ⟨taken, ?_⟩
    rw [hp.execute_eq, hp'.execute_eq, fetch, fetch]
    have hreq : ({ dl with client } : Downloader).request primary b = dl.request primary b := rfl
    have hgate : ({ dl with client } : Downloader).gate b = dl.gate b := rfl
    simp only [hreq, hgate, hdisk, hd]

/-- **An attempt whose body ends in an error** fails with it, and hands nothing to its storage. -/
theorem execute_broken (hr : dl.Receives b d response) (hs : response.isSuccess = true)
    {text : String} (hc : streamError? response.body = some text) :
    (dl.execute b d).promotions = [] ∧
      ∃ url, (dl.execute b d).requests.map (·.1.url) = [url] ∧
        (dl.execute b d).result =
          (TransferError.download url (received response.body).length (.text text)).result := by
  obtain ⟨d₁, d₂, primary, temp, hp, hr⟩ := hr
  obtain ⟨houtcome, hprom⟩ := download_broken (hp.fits (dl.client (dl.request primary b) d₂).1) hs
    hc (dl.gate b) b.storage (dl.request primary b).url
  rw [hp.execute_eq, fetch]
  simp only [hr]
  refine ⟨hprom, _, rfl, ?_⟩
  rw [houtcome]
  rfl

theorem result_download (url text : String) (bytes : Nat) :
    let e : TransferError := .download url bytes (.text text)
    e.result.failureKind? = some .transport ∧ e.result.bytesDownloaded = bytes ∧
      ∃ details, e.result.details? = some details ∧ details.get? "error" = some (.string text) ∧
        details.get? "url" = some (.string url) := by
  intro e
  have hdetails : e.details =
      (Dict.empty.insert "error" (.string text)).insert "url" (.string url) := rfl
  have hfull : e.details.isEmpty = false := by rw [hdetails, Dict.isEmpty_insert]
  refine ⟨e.failureKind?_result, e.bytesDownloaded_result, e.details, e.details?_result hfull,
    ?_, ?_⟩
  · rw [hdetails, Dict.get?_insert, Dict.get?_insert]
    rfl
  · rw [hdetails, Dict.get?_insert]
    rfl

/-- **How a body is cut is not seen.** Two clients whose answers differ only in the cuts of the
bodies of successes lead to attempts that differ only in the number of pieces they take: the result,
the disk, the events and the requests are the same, and the storage is handed the same file on the
same disk. If the body ends in an error, the transfer fails with that error, after all octets before
it, and no storage is called; the error and the address of the request are in the diagnostics. -/
theorem cutting_invisible (dl : Downloader) (client : Client) (h : dl.client.Recuts client)
    (b : Blob) (d : Disk) :
    (∃ taken, ({ dl with client } : Downloader).execute b d = { dl.execute b d with taken }) ∧
    ∀ response text, dl.Receives b d response → 200 ≤ response.status → response.status ≤ 299 →
      streamError? response.body = some text →
      (dl.execute b d).promotions = [] ∧
        (dl.execute b d).result.failureKind? = some .transport ∧
        (dl.execute b d).result.bytesDownloaded = (received response.body).length ∧
        ∃ url details, (dl.execute b d).requests.map (·.1.url) = [url] ∧
          (dl.execute b d).result.details? = some details ∧
          details.get? "error" = some (.string text) ∧ details.get? "url" = some (.string url) := by
  refine ⟨execute_recut h b d, fun response text hr hlo hhi hc => ?_⟩
  obtain ⟨hprom, url, hurl, hres⟩ := execute_broken hr (isSuccess_iff.2 ⟨hlo, hhi⟩) hc
  obtain ⟨hkind, hbytes, details, hdetails⟩ :=
    result_download url text (received response.body).length
  rw [hres]
  exact ⟨hprom, hkind, hbytes, url, details, hurl, hdetails⟩

/-- What a client answers that gets a body in these pieces, and then an error. -/
def brokenClient (pieces : List Bytes) : Client := fun _ d =>
  (d, .ok ⟨200, "OK", none, pieces.map .octets ++ [.error "reset"]⟩)

/-- A body in two pieces, and in three with nothing in one of them. -/
theorem cutting_invisible_empty_piece :
    (brokenClient [[1, 2], [3]]).Recuts (brokenClient [[1], [], [2, 3]]) ∧
      (({ twoPieces with client := brokenClient [[1], [], [2, 3]] } : Downloader).execute
        threeOctets Disk.empty).result.bytesDownloaded = 3 := by
  have h : (brokenClient [[1, 2], [3]]).Recuts (brokenClient [[1], [], [2, 3]]) := by
    intro request d
    have hsame : SameBody [.octets [1, 2], .octets [3], .error "reset"]
        [.octets [1], .octets [], .octets [2, 3], .error "reset"] := ⟨rfl, rfl⟩
    exact ⟨rfl, SameAnswer.recut rfl hsame⟩
  let dl : Downloader := { twoPieces with client := brokenClient [[1, 2], [3]] }
  obtain ⟨⟨taken, hsame⟩, hbroken⟩ :=
    cutting_invisible dl (brokenClient [[1], [], [2, 3]]) h threeOctets Disk.empty
  obtain ⟨⟨d₂, temp⟩, hs⟩ : ∃ r, threeOctets.stage Disk.empty = .ok r := ⟨_, rfl⟩
  have hr : dl.Receives threeOctets Disk.empty
      ⟨200, "OK", none, [.octets [1, 2], .octets [3], .error "reset"]⟩ :=
    ⟨Disk.empty, d₂, ⟨"http://primary"⟩, temp, ⟨rfl, hs⟩, rfl⟩
  have hbytes := (hbroken _ "reset" hr (by decide) (by decide) rfl).2.2.1
  refine ⟨h, ?_⟩
  change (({ dl with client := brokenClient [[1], [], [2, 3]] } : Downloader).execute
    threeOctets Disk.empty).result.bytesDownloaded = 3
  rw [hsame]
  exact hbytes

end Downloader

end Replica
