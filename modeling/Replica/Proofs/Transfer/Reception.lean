import Mathlib.Data.List.Basic
import Replica.Proofs.Digest.Stream
import Replica.Proofs.Disk.Staged
import Replica.Transfer.Attempt

/-!
# What is received of a body

* `receivedPieces`, **`received`**, `streamError?`: the pieces of a body up to its first error, what
  they are together, and that error;
* `TempFile.Fresh`: a temporary file that is open and empty;
* **`receive_eq`**: all that is received is written to the file and digested, in order;
* `ChecksumGate.Passes`: a success whose body is complete and has the expected digest;
* **`download_of_passes`**, **`download_of_not_passes`**: what a download does with the file.
-/

namespace Replica

/-! ## Bodies -/

/-- The pieces of a body up to its first error. -/
def receivedPieces : List Piece → List Bytes
  | .octets bs :: rest => bs :: receivedPieces rest
  | _ => []

/-- **What is received of a body**, all pieces in order. -/
def received (body : List Piece) : Bytes := (receivedPieces body).flatten

/-- The error that ends a body. -/
def streamError? : List Piece → Option String
  | [] => none
  | .error text :: _ => some text
  | .octets _ :: rest => streamError? rest

@[simp] theorem received_nil : received [] = [] := rfl

@[simp] theorem received_error (text : String) (rest : List Piece) :
    received (.error text :: rest) = [] := rfl

@[simp] theorem received_octets (bs : Bytes) (rest : List Piece) :
    received (.octets bs :: rest) = bs ++ received rest := rfl

/-! ## Receiving -/

/-- The file is open at its end. -/
structure TempFile.AtEnd (t : TempFile) (d : Disk) : Prop where
  lt_length : t.id < d.files.length
  offset_eq : t.offset = (d.content t.id).length

/-- The file is open and empty. -/
structure TempFile.Fresh (t : TempFile) (d : Disk) : Prop where
  lt_length : t.id < d.files.length
  content_eq : d.content t.id = []
  offset_eq : t.offset = 0

theorem TempFile.Fresh.atEnd {t : TempFile} {d : Disk} (h : t.Fresh d) : t.AtEnd d :=
  ⟨h.lt_length, by rw [h.offset_eq, h.content_eq, List.length_nil]⟩

variable {d : Disk} {temp : TempFile}

theorem TempFile.AtEnd.append (h : temp.AtEnd d) (bs : Bytes) :
    ({ temp with offset := temp.offset + bs.length } : TempFile).AtEnd
      (d.setContent temp.id (d.content temp.id ++ bs)) where
  lt_length := by simpa using h.lt_length
  offset_eq := by
    rw [Disk.content_setContent _ _ _ h.lt_length, if_pos rfl, List.length_append, h.offset_eq]

/-- **What is received** is written behind what the file held, and digested, up to an error. -/
theorem receive_eq (h : temp.AtEnd d) (hasher? : Option Sha256.Hasher) (body : List Piece) :
    ∃ taken, receive d temp hasher? body =
      { disk := d.setContent temp.id (d.content temp.id ++ received body)
        temp := { temp with offset := temp.offset + (received body).length }
        hasher? := hasher?.map (·.updateAll (receivedPieces body))
        bytes := (received body).length
        taken
        error? := streamError? body } := by
  -- on the body: every piece leaves the file open at its end
  induction body generalizing d temp hasher? with
  | nil =>
    refine ⟨0, ?_⟩
    rw [received_nil, List.append_nil, Disk.setContent_content h.lt_length]
    cases hasher? <;> rfl
  | cons piece rest ih =>
    cases piece with
    | error text =>
      refine ⟨1, ?_⟩
      rw [received_error, List.append_nil, Disk.setContent_content h.lt_length]
      cases hasher? <;> rfl
    | octets bs =>
      obtain ⟨taken, hrest⟩ := ih (h.append bs) (hasher?.map (·.update bs))
      refine ⟨taken + 1, ?_⟩
      rw [receive, Disk.appendTemp_eq h.offset_eq]
      simp only [hrest, received_octets, List.length_append]
      rw [Disk.setContent_setContent h.lt_length, Disk.content_setContent _ _ _ h.lt_length,
        if_pos rfl, List.append_assoc, Nat.add_assoc, Option.map_map]
      rfl

/-! ## Downloads -/

/-- **What may be put in its place**: a success whose body is complete, and has the expected digest
if one is expected. -/
structure ChecksumGate.Passes (gate : ChecksumGate) (response : Response) : Prop where
  success : response.isSuccess = true
  complete : streamError? response.body = none
  matches_eq : gate.isMismatch (Sha256.hexDigest (received response.body)) = false

variable {gate : ChecksumGate} {storage : Storage} {url : String} {response : Response}

/-- The hasher of a download, after all of a body. -/
def ChecksumGate.hasherOf? (gate : ChecksumGate) (body : List Piece) : Option Sha256.Hasher :=
  (if gate.isRequired then some Sha256.Hasher.new else none).map (·.updateAll (receivedPieces body))

theorem verifyAndPromote_of_match (storage : Storage) {r : Received} {body : List Piece}
    (hr : r.hasher? = gate.hasherOf? body)
    (h : gate.isMismatch (Sha256.hexDigest (received body)) = false) :
    ∃ events, verifyAndPromote gate storage r = { promote storage r with events } := by
  cases hreq : gate.isRequired with
  | false =>
    rw [ChecksumGate.hasherOf?, hreq] at hr
    exact ⟨(promote storage r).events, by rw [verifyAndPromote, hr]; rfl⟩
  | true =>
    rw [ChecksumGate.hasherOf?, hreq] at hr
    rw [received, ← Sha256.Hasher.finishHex_updateAll] at h
    refine ⟨.verifying :: (promote storage r).events, ?_⟩
    rw [verifyAndPromote, hr]
    simp [h]

theorem verifyAndPromote_of_mismatch {r : Received} {body : List Piece}
    (hr : r.hasher? = gate.hasherOf? body)
    (h : gate.isMismatch (Sha256.hexDigest (received body)) = true) :
    verifyAndPromote gate storage r =
      { disk := r.disk
        outcome := .error (.checksumMismatch (gate.expected?.getD "")
          (Sha256.hexDigest (received body)) (r.disk.tempSize r.temp))
        events := [.verifying]
        promotions := []
        taken := r.taken } := by
  have hreq : gate.isRequired = true := by
    obtain ⟨_ | expected⟩ := gate
    · cases h
    · rfl
  rw [ChecksumGate.hasherOf?, hreq] at hr
  rw [received, ← Sha256.Hasher.finishHex_updateAll] at h ⊢
  rw [verifyAndPromote, hr]
  simp [h]

theorem save_eq (hf : temp.Fresh d) (gate : ChecksumGate) (storage : Storage) (url : String)
    (response : Response) :
    ∃ r : Received, r.disk = d.setContent temp.id (received response.body) ∧
      r.temp.path = temp.path ∧ r.disk.tempSize r.temp = (received response.body).length ∧
      r.hasher? = gate.hasherOf? response.body ∧
      save gate storage url temp response d =
        let p : Download :=
          match streamError? response.body with
          | some text => ⟨r.disk, .error (.download url r.bytes (.text text)), [], [], r.taken⟩
          | none => verifyAndPromote gate storage r
        { p with events := .streaming response.status :: p.events } := by
  let hasher? := if gate.isRequired then some Sha256.Hasher.new else none
  obtain ⟨taken, hr⟩ := receive_eq hf.atEnd hasher? response.body
  rw [hf.content_eq, List.nil_append] at hr
  have herror : (receive d temp hasher? response.body).error? = streamError? response.body := by
    rw [hr]
  refine ⟨receive d temp hasher? response.body, by rw [hr], by rw [hr], ?_, by rw [hr]; rfl, ?_⟩
  · rw [hr, Disk.tempSize, Disk.content_setContent _ _ _ hf.lt_length, if_pos rfl]
  · rw [← herror]
    rfl

/-- **A download that passes** hands a file with all of the body to its storage. -/
theorem download_of_passes (storage : Storage) (url : String) (hf : temp.Fresh d)
    (h : gate.Passes response) :
    let staged := d.setContent temp.id (received response.body)
    ∃ events taken, download gate storage url temp (.ok response) d =
      { disk := (storage.replaceFile temp.path staged).1
        outcome :=
          match (storage.replaceFile temp.path staged).2 with
          | .ok _ => .ok (received response.body).length
          | .error e => .error (.replace (received response.body).length e)
        events
        promotions := [⟨temp.path, staged⟩]
        taken } := by
  intro staged
  obtain ⟨r, hdisk, hpath, hsize, hhasher, hsave⟩ := save_eq hf gate storage url response
  obtain ⟨events, hp⟩ := verifyAndPromote_of_match storage hhasher h.matches_eq
  rw [h.complete] at hsave
  refine ⟨.streaming response.status :: events, r.taken, ?_⟩
  rw [download, if_pos h.success, hsave]
  simp only [hp, promote, hdisk, hpath, ← hsize]
  rfl

theorem download_of_mismatch (storage : Storage) (url : String) (hf : temp.Fresh d)
    (hs : response.isSuccess = true) (hc : streamError? response.body = none)
    (h : gate.isMismatch (Sha256.hexDigest (received response.body)) = true) :
    ∃ events taken, download gate storage url temp (.ok response) d =
      { disk := d.setContent temp.id (received response.body)
        outcome := .error (.checksumMismatch (gate.expected?.getD "")
          (Sha256.hexDigest (received response.body)) (received response.body).length)
        events
        promotions := []
        taken } := by
  obtain ⟨r, hdisk, -, hsize, hhasher, hsave⟩ := save_eq hf gate storage url response
  rw [hc] at hsave
  refine ⟨[.streaming response.status, .verifying], r.taken, ?_⟩
  rw [download, if_pos hs, hsave, verifyAndPromote_of_mismatch hhasher h]
  simp only [hdisk, ← hsize]

/-- **A download that does not pass** is an error, and no storage is called. -/
theorem download_of_not_passes (storage : Storage) (url : String) (hf : temp.Fresh d)
    {answer : Except String Response}
    (h : ∀ response, answer = .ok response → ¬gate.Passes response) :
    ∃ bs e events taken, download gate storage url temp answer d =
      { disk := d.setContent temp.id bs
        outcome := .error e
        events
        promotions := []
        taken } := by
  have hsame : d.setContent temp.id [] = d := by
    rw [← hf.content_eq, Disk.setContent_content hf.lt_length]
  cases answer with
  | error text => exact ⟨[], _, _, _, by rw [hsame]; rfl⟩
  | ok response =>
    cases hs : response.isSuccess with
    | false => exact ⟨[], _, _, _, by rw [hsame, download, hs]; rfl⟩
    | true =>
      cases hc : streamError? response.body with
      | some text =>
        obtain ⟨r, hdisk, -, -, -, hsave⟩ := save_eq hf gate storage url response
        rw [hc] at hsave
        exact ⟨received response.body, _, _, _, by rw [download, if_pos hs, hsave, hdisk]⟩
      | none =>
        have hm : gate.isMismatch (Sha256.hexDigest (received response.body)) = true := by
          by_contra hm
          exact h response rfl ⟨hs, hc, Bool.eq_false_iff.2 hm⟩
        obtain ⟨events, taken, hd⟩ := download_of_mismatch storage url hf hs hc hm
        exact ⟨_, _, events, taken, hd⟩

end Replica
