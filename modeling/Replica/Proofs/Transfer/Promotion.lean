import Replica.Proofs.Text.Blank
import Replica.Proofs.Transfer.Reception

/-!
# When a storage is called

* `Downloader.Prepared`: the preconditions hold and a temporary file is there;
* **`execute_cases`**: an attempt is abandoned, or goes on with a request;
* `Downloader.Receives`: the response that an attempt gets;
* `Downloader.Accepts`: no checksum is to be compared, or it is that of the content;
* `Downloader.Undisturbed`: nobody else touches the staged file;
* **`Prepared.fetch_cases`**: what becomes of a request;
* **`promotion_gate`**: the storage is called for what is accepted, once and with all of it.
-/

namespace Replica

/-! ## Errors are no successes -/

theorem TransferError.isSuccess_result (e : TransferError) : e.result.isSuccess = false := by
  rw [result, TransferResult.withDetails]
  simp only [TransferResult.withBytesDownloaded, TransferResult.failed]
  split <;> rfl

theorem TransferError.result_ne_success (e : TransferError) (n : Nat) :
    e.result ≠ .success n := by
  intro h
  have := e.isSuccess_result
  rw [h] at this
  cases this

namespace Downloader

/-! ## The course of an attempt -/

/-- **Everything is ready for a request**: the preconditions hold, and a temporary file is there. -/
structure Prepared (dl : Downloader) (b : Blob) (d d₁ d₂ : Disk) (primary : Primary)
    (temp : TempFile) : Prop where
  preconditions : checkPreconditions dl.node b.storage d = (d₁, .ok primary)
  staged : b.stage d₁ = .ok (d₂, temp)

variable {dl : Downloader} {b : Blob} {d d₁ d₂ : Disk} {primary : Primary} {temp : TempFile}
  {response : Response}

theorem Prepared.execute_eq (h : dl.Prepared b d d₁ d₂ primary temp) :
    dl.execute b d = dl.fetch b primary temp d₂ := by
  simp only [execute, h.preconditions, h.staged]

theorem Prepared.unique {d₁' d₂' : Disk} {primary' : Primary} {temp' : TempFile}
    (h : dl.Prepared b d d₁ d₂ primary temp) (h' : dl.Prepared b d d₁' d₂' primary' temp') :
    primary' = primary ∧ d₂' = d₂ ∧ temp' = temp := by
  obtain ⟨rfl, hp⟩ := Prod.mk.inj (h.preconditions.symm.trans h'.preconditions)
  obtain ⟨rfl, rfl⟩ := Prod.mk.inj (Except.ok.inj (h.staged.symm.trans h'.staged))
  exact ⟨(Except.ok.inj hp).symm, rfl, rfl⟩

/-- **An attempt is abandoned or goes on** with a request. -/
theorem execute_cases (dl : Downloader) (b : Blob) (d : Disk) :
    (∃ e, dl.execute b d = abandon (checkPreconditions dl.node b.storage d).1 e ∧
        ∀ d₁ d₂ primary temp, ¬dl.Prepared b d d₁ d₂ primary temp) ∨
      ∃ d₁ d₂ primary temp, dl.Prepared b d d₁ d₂ primary temp := by
  cases hpre : checkPreconditions dl.node b.storage d with
  | mk d₁ r =>
    cases r with
    | error e =>
      refine .inl ⟨e, by simp only [execute, hpre], fun d₁ d₂ primary temp h => ?_⟩
      rw [h.preconditions] at hpre
      cases hpre
    | ok primary =>
      cases hstage : b.stage d₁ with
      | error e =>
        refine .inl ⟨e, by simp only [execute, hpre, hstage], fun d₁ d₂ primary temp h => ?_⟩
        obtain ⟨rfl, -⟩ := Prod.mk.inj (h.preconditions.symm.trans hpre)
        rw [h.staged] at hstage
        cases hstage
      | ok r => exact .inr ⟨d₁, r.1, primary, r.2, hpre, hstage⟩

/-- **The response that an attempt gets.** -/
def Receives (dl : Downloader) (b : Blob) (d : Disk) (response : Response) : Prop :=
  ∃ d₁ d₂ primary temp, dl.Prepared b d d₁ d₂ primary temp ∧
    (dl.client (dl.request primary b) d₂).2 = .ok response

theorem Prepared.receives_iff (h : dl.Prepared b d d₁ d₂ primary temp) :
    dl.Receives b d response ↔ (dl.client (dl.request primary b) d₂).2 = .ok response := by
  constructor
  · rintro ⟨_, _, _, _, h', hr⟩
    obtain ⟨rfl, rfl, rfl⟩ := h.unique h'
    exact hr
  · exact fun hr => ⟨d₁, d₂, primary, temp, h, hr⟩

/-! ## The checksum -/

/-- **The content is accepted**: verification is off, nothing or only blanks are declared, or the
declared checksum is that of the content. -/
def Accepts (dl : Downloader) (b : Blob) (content : Bytes) : Prop :=
  dl.flags.enabled Flags.transferValidation true = false ∨
    (∀ declared, b.checksum? = some declared → Text.trim declared = "") ∨
    b.checksum? = some (Sha256.hexDigest content)

/-- **A checksum is required**: verification is on, and this text is declared, which is not
blank. -/
structure Requires (dl : Downloader) (b : Blob) (declared : String) : Prop where
  enabled : dl.flags.enabled Flags.transferValidation true = true
  declared_eq : b.checksum? = some declared
  not_blank : Text.trim declared ≠ ""

theorem Requires.expected?_gate {declared : String} (h : dl.Requires b declared) :
    (dl.gate b).expected? = some declared := by
  have hb : Text.isBlankText declared = false := by
    rw [← Bool.not_eq_true, Text.isBlankText_iff]
    exact h.not_blank
  simp [gate, ChecksumGate.of, h.declared_eq, h.enabled, hb]

theorem isMismatch_gate_iff (content : Bytes) :
    (dl.gate b).isMismatch (Sha256.hexDigest content) = false ↔ dl.Accepts b content := by
  rw [Accepts]
  cases he : dl.flags.enabled Flags.transferValidation true with
  | false => simp [gate, ChecksumGate.of, ChecksumGate.isMismatch, he]
  | true =>
    cases hc : b.checksum? with
    | none => simp [gate, ChecksumGate.of, ChecksumGate.isMismatch, hc]
    | some declared =>
      by_cases hb : Text.trim declared = ""
      · have := (Text.isBlankText_iff declared).2 hb
        simp [gate, ChecksumGate.of, ChecksumGate.isMismatch, Option.filter_some, hc, this, hb]
      · have hreq : dl.Requires b declared := ⟨he, hc, hb⟩
        simp [ChecksumGate.isMismatch, hreq.expected?_gate, hb]

/-! ## The staged file -/

end Downloader

/-- Nobody has moved or written the file. -/
structure TempFile.Untouched (t : TempFile) (d d' : Disk) : Prop where
  fileAt_eq : d'.fileAt t.path = d.fileAt t.path
  body_eq : d'.files[t.id]? = d.files[t.id]?

theorem TempFile.Untouched.refl (t : TempFile) (d : Disk) : t.Untouched d d := ⟨rfl, rfl⟩

/-- A client that leaves the disk alone. -/
def Client.Quiet (client : Client) : Prop := ∀ request d, (client request d).1 = d

theorem Blob.staged_of_stage {b : Blob} {d d' : Disk} {temp : TempFile}
    (h : b.stage d = .ok (d', temp)) :
    temp.offset = 0 ∧ ∃ dir name, d.Staged d' temp dir name {} := by
  have hmode : b.stagingPlace.2.mode = defaultMode := by
    rw [stagingPlace]
    split <;> rfl
  have hs := Disk.staged_of_createTemp (mapError_eq_ok.1 h)
  rwa [hmode] at hs

namespace Downloader

variable {dl : Downloader} {b : Blob} {d d₁ d₂ : Disk} {primary : Primary} {temp : TempFile}
  {response : Response}

/-- **Nobody else touches the staged file** while the response is on its way. -/
def Undisturbed (dl : Downloader) (b : Blob) (d : Disk) : Prop :=
  ∀ d₁ d₂ primary temp, dl.Prepared b d d₁ d₂ primary temp →
    temp.Untouched d₂ (dl.client (dl.request primary b) d₂).1

theorem undisturbed_of_quiet (hq : Client.Quiet dl.client) : dl.Undisturbed b d :=
  fun _ _ _ _ _ => by rw [hq]; exact .refl _ _

theorem Prepared.fresh {d₃ : Disk} (h : dl.Prepared b d d₁ d₂ primary temp)
    (hu : temp.Untouched d₂ d₃) :
    temp.Fresh d₃ ∧ ∀ bs, (d₃.setContent temp.id bs).readAt temp.path = .ok bs := by
  obtain ⟨hoff, dir, name, hs⟩ := Blob.staged_of_stage h.staged
  have hbody : d₃.files[temp.id]? = some {} := by
    rw [hu.body_eq, hs.id_eq, hs.files]
    simp
  have hlt : temp.id < d₃.files.length := (List.getElem?_eq_some_iff.1 hbody).1
  refine ⟨⟨hlt, by simp [Disk.content, Disk.body, hbody], hoff⟩, fun bs => ?_⟩
  have hfile : (d₃.setContent temp.id bs).fileAt temp.path = .ok temp.id := by
    rw [Disk.fileAt_setContent, hu.fileAt_eq, hs.fileAt]
  have hread : (d₃.setContent temp.id bs).isReadable temp.id = true := by
    have hmode : (defaultMode &&& ownerRead != 0) = true := by decide
    rw [Disk.isReadable, Disk.body_setContent _ _ _ hlt, if_pos rfl, Disk.body, hbody]
    exact hmode
  simp [Disk.readAt, hfile, hread, Disk.content_setContent _ _ _ hlt]

/-! ## The gate -/

/-- **What becomes of a request**: all of a response that passes is handed to the storage, and the
result is the storage's; or no storage is called and the attempt fails. Then the staged file is
closed. -/
theorem Prepared.fetch_cases (h : dl.Prepared b d d₁ d₂ primary temp) {d₃ : Disk}
    {answer : Except String Response} (hc : dl.client (dl.request primary b) d₂ = (d₃, answer))
    (hu : temp.Untouched d₂ d₃) :
    (∃ response, answer = .ok response ∧ (dl.gate b).Passes response ∧
        (dl.execute b d).promotions =
          [⟨temp.path, d₃.setContent temp.id (received response.body)⟩] ∧
        (dl.execute b d).disk =
          ((b.storage.replaceFile temp.path
            (d₃.setContent temp.id (received response.body))).1.closeTemp temp).1 ∧
        (dl.execute b d).result =
          match (b.storage.replaceFile temp.path
            (d₃.setContent temp.id (received response.body))).2 with
          | .ok _ => .success (received response.body).length
          | .error e => (TransferError.replace (received response.body).length e).result) ∨
      (∀ response, answer = .ok response → ¬(dl.gate b).Passes response) ∧
        (dl.execute b d).promotions = [] ∧
        ∃ bs e, (dl.execute b d).disk = ((d₃.setContent temp.id bs).closeTemp temp).1 ∧
          (dl.execute b d).result = TransferError.result e := by
  have hfresh := (h.fresh hu).1
  rw [h.execute_eq]
  by_cases hpass : ∃ response, answer = .ok response ∧ (dl.gate b).Passes response
  · obtain ⟨response, rfl, hp⟩ := hpass
    obtain ⟨events, taken, hd⟩ := download_of_passes b.storage (dl.request primary b).url hfresh hp
    refine .inl ⟨response, rfl, hp, ?_, ?_, ?_⟩
    · simp only [fetch, hc, hd]
    · simp only [fetch, hc, hd]
    · simp only [fetch, hc, hd]
      generalize (b.storage.replaceFile _ _).2 = outcome
      cases outcome <;> rfl
  · have hnot : ∀ response, answer = .ok response → ¬(dl.gate b).Passes response :=
      fun response hr hp => hpass ⟨response, hr, hp⟩
    obtain ⟨bs, e, events, taken, hd⟩ :=
      download_of_not_passes b.storage (dl.request primary b).url hfresh hnot
    refine .inr ⟨hnot, ?_, bs, e, ?_, ?_⟩
    · simp only [fetch, hc, hd]
    · simp only [fetch, hc, hd]
    · simp only [fetch, hc, hd]
      rfl

theorem execute_gate (hu : dl.Undisturbed b d) :
    (∃ response p, dl.Receives b d response ∧ (dl.gate b).Passes response ∧
        (dl.execute b d).promotions = [p] ∧
        p.disk.readAt p.path = .ok (received response.body) ∧
        (dl.execute b d).result =
          match (b.storage.replaceFile p.path p.disk).2 with
          | .ok _ => .success (received response.body).length
          | .error e => (TransferError.replace (received response.body).length e).result) ∨
      (∀ response, dl.Receives b d response → ¬(dl.gate b).Passes response) ∧
        (dl.execute b d).promotions = [] ∧
          ∃ e, (dl.execute b d).result = TransferError.result e := by
  rcases execute_cases dl b d with ⟨e, h, hnot⟩ | ⟨d₁, d₂, primary, temp, h⟩
  · right
    rw [h]
    exact ⟨fun _ ⟨_, _, _, _, hp, _⟩ => absurd hp (hnot _ _ _ _), rfl, e, rfl⟩
  · have hu := hu _ _ _ _ h
    simp only [h.receives_iff]
    rcases h.fetch_cases rfl hu with
      ⟨response, hr, hp, hprom, -, hres⟩ | ⟨hnot, hprom, _, e, -, hres⟩
    · exact .inl ⟨response, _, hr, hp, hprom, (h.fresh hu).2 _, hres⟩
    · exact .inr ⟨hnot, hprom, e, hres⟩

theorem execute_mismatch {declared : String} (hu : dl.Undisturbed b d)
    (hr : dl.Receives b d response) (hs : response.isSuccess = true)
    (hc : streamError? response.body = none) (hreq : dl.Requires b declared)
    (hne : declared ≠ Sha256.hexDigest (received response.body)) :
    (dl.execute b d).promotions = [] ∧
      (dl.execute b d).result =
        (TransferError.checksumMismatch declared (Sha256.hexDigest (received response.body))
          (received response.body).length).result := by
  obtain ⟨d₁, d₂, primary, temp, h, hr⟩ := hr
  obtain ⟨hfresh, -⟩ := h.fresh (hu _ _ _ _ h)
  have hexp := hreq.expected?_gate
  have hm : (dl.gate b).isMismatch (Sha256.hexDigest (received response.body)) = true := by
    simpa [ChecksumGate.isMismatch, hexp] using hne
  obtain ⟨events, taken, hdl⟩ := download_of_mismatch b.storage (dl.request primary b).url hfresh hs
    hc hm
  rw [h.execute_eq]
  constructor
  · simp only [fetch, hr, hdl]
  · simp only [fetch, hr, hdl, hexp]
    rfl

theorem isSuccess_iff :
    response.isSuccess = true ↔ 200 ≤ response.status ∧ response.status ≤ 299 := by
  simp only [Response.isSuccess, Response.isSuccessStatus, Bool.and_eq_true, decide_eq_true_eq]
  omega

theorem passes_gate_iff :
    (dl.gate b).Passes response ↔
      200 ≤ response.status ∧ response.status ≤ 299 ∧ streamError? response.body = none ∧
        dl.Accepts b (received response.body) := by
  rw [← isMismatch_gate_iff, ← and_assoc, ← isSuccess_iff]
  exact ⟨fun h => ⟨h.success, h.complete, h.matches_eq⟩, fun ⟨h, h', h''⟩ => ⟨h, h', h''⟩⟩

/-- **The gate before a storage.** If nobody else touches the staged file, the storage is called at
most once, and it is called if and only if a response with a status from 200 to 299 was received to
its end and its content is accepted. The staged file then holds all of the content, and nothing
else. The attempt is a success if and only if the storage was called and answered without an error;
its count is the length of the content. Content with another digest than the required one is
rejected as such. -/
theorem promotion_gate (dl : Downloader) (b : Blob) (d : Disk) (hu : dl.Undisturbed b d) :
    (dl.execute b d).promotions.length ≤ 1 ∧
    ((dl.execute b d).promotions ≠ [] ↔
      ∃ response, dl.Receives b d response ∧ 200 ≤ response.status ∧ response.status ≤ 299 ∧
        streamError? response.body = none ∧ dl.Accepts b (received response.body)) ∧
    (∀ p ∈ (dl.execute b d).promotions, ∃ response, dl.Receives b d response ∧
      p.disk.readAt p.path = .ok (received response.body)) ∧
    (∀ n, (dl.execute b d).result = .success n ↔
      ∃ p left content, (dl.execute b d).promotions = [p] ∧
        (b.storage.replaceFile p.path p.disk).2 = .ok left ∧
        p.disk.readAt p.path = .ok content ∧ n = content.length) ∧
    ∀ response declared, dl.Receives b d response → 200 ≤ response.status →
      response.status ≤ 299 → streamError? response.body = none → dl.Requires b declared →
      declared ≠ Sha256.hexDigest (received response.body) →
      (dl.execute b d).promotions = [] ∧
        (dl.execute b d).result =
          (TransferError.checksumMismatch declared (Sha256.hexDigest (received response.body))
            (received response.body).length).result := by
  simp only [← passes_gate_iff]
  have hmismatch : ∀ response declared, dl.Receives b d response → 200 ≤ response.status →
      response.status ≤ 299 → streamError? response.body = none → dl.Requires b declared →
      declared ≠ Sha256.hexDigest (received response.body) →
      (dl.execute b d).promotions = [] ∧
        (dl.execute b d).result =
          (TransferError.checksumMismatch declared (Sha256.hexDigest (received response.body))
            (received response.body).length).result := by
    intro response declared hr hlo hhi hc hreq hne
    exact execute_mismatch hu hr (isSuccess_iff.2 ⟨hlo, hhi⟩) hc hreq hne
  rcases execute_gate hu with ⟨response, p, hr, hp, hprom, hread, hres⟩ | ⟨hnot, hprom, e, hres⟩
  · refine ⟨by rw [hprom]; exact Nat.le_refl 1, ?_, ?_, ?_, hmismatch⟩
    · rw [hprom]
      exact ⟨fun _ => ⟨response, hr, hp⟩, fun _ => List.cons_ne_nil _ _⟩
    · rw [hprom]
      rintro q hq
      obtain rfl := List.mem_singleton.1 hq
      exact ⟨response, hr, hread⟩
    · intro n
      rw [hres]
      constructor
      · intro hn
        split at hn
        · rename_i left hleft
          exact ⟨p, left, _, hprom, hleft, hread, (congrArg TransferResult.bytesDownloaded hn).symm⟩
        · exact absurd hn (TransferError.result_ne_success _ _)
      · rintro ⟨q, left, content, hq, hleft, hcontent, rfl⟩
        obtain rfl : p = q := by
          rw [hprom] at hq
          exact (List.cons.inj hq).1
        rw [hleft, Except.ok.inj (hread.symm.trans hcontent)]
  · refine ⟨by rw [hprom]; exact Nat.zero_le 1, ?_, ?_, ?_, hmismatch⟩
    · rw [hprom]
      exact ⟨fun h => absurd rfl h, fun ⟨response, hr, hp⟩ => absurd hp (hnot response hr)⟩
    · rw [hprom]
      exact fun _ h => absurd h List.not_mem_nil
    · intro n
      constructor
      · intro hn
        rw [hres] at hn
        exact absurd hn (TransferError.result_ne_success _ _)
      · rintro ⟨q, left, content, hq, -⟩
        rw [hprom] at hq
        cases hq

/-- A downloader that gets two pieces from its primary. -/
def twoPieces : Downloader where
  client _ d := (d, .ok ⟨200, "OK", none, [.octets [1, 2], .octets [3]]⟩)
  headers _ := []
  node := .secondary ⟨"http://primary"⟩
  flags := Dict.empty

/-- A blob of which the digest is declared. -/
def threeOctets : Blob := ⟨⟨"upload", 1⟩, some (Sha256.hexDigest [1, 2, 3]), .file "/blob"⟩

/-- The gate for two pieces with the declared digest. -/
theorem promotion_gate_two_pieces :
    twoPieces.Undisturbed threeOctets Disk.empty ∧
      (twoPieces.execute threeOctets Disk.empty).promotions ≠ [] := by
  have hu : twoPieces.Undisturbed threeOctets Disk.empty := undisturbed_of_quiet fun _ _ => rfl
  obtain ⟨⟨d₂, temp⟩, hs⟩ : ∃ r, threeOctets.stage Disk.empty = .ok r := ⟨_, rfl⟩
  have hr : twoPieces.Receives threeOctets Disk.empty
      ⟨200, "OK", none, [.octets [1, 2], .octets [3]]⟩ :=
    ⟨Disk.empty, d₂, ⟨"http://primary"⟩, temp, ⟨rfl, hs⟩, rfl⟩
  exact ⟨hu, (promotion_gate twoPieces threeOctets Disk.empty hu).2.1.2
    ⟨_, hr, by decide, by decide, rfl, .inr (.inr rfl)⟩⟩

end Downloader

end Replica
