import Mathlib.Data.List.Basic
import Replica.Proofs.Disk.Beside
import Replica.Proofs.Transfer.AllOrNothing
import Replica.Proofs.Transfer.Cutting

/-!
# What comes of a transfer

The result of a transfer to an ordinary destination depends on nothing in the tree but whether the
destination is a directory, and which name the temporary file gets.

* `ChecksumGate.failure?`, **`Call.outcome_download`**: what is wrong with an answer, and what comes
  of a download otherwise;
* `Call.outcome`, **`Call.result_attempt`**: what comes of a transfer;
* `Call.IsReady`, `Call.result_attempt_of_isDir`, `Call.result_attempt_of_ensureParentDir`: transfers
  that end before a request;
* `Call.failureKind?_ne_precondition`: those that do not;
* **`Call.covers_attempt`**: the tree after a transfer.
-/

namespace Replica

/-! ## Answers -/

/-- **What is wrong with an answer**, if it does not pass. -/
def ChecksumGate.failure? (gate : ChecksumGate) (url : String) :
    Except String Response → Option TransferError
  | .error text => some (.download url 0 (.text text))
  | .ok response =>
    if response.isSuccess then
      match streamError? response.body with
      | some text => some (.download url (received response.body).length (.text text))
      | none =>
        if gate.isMismatch (Sha256.hexDigest (received response.body)) then
          some (.checksumMismatch (gate.expected?.getD "")
            (Sha256.hexDigest (received response.body)) (received response.body).length)
        else none
    else some (refusal url response)

theorem ChecksumGate.kind_of_failure? {gate : ChecksumGate} {url : String}
    {answer : Except String Response} {e : TransferError} (h : gate.failure? url answer = some e) :
    e.kind ≠ .precondition := by
  cases answer with
  | error text =>
    obtain rfl := Option.some.inj h
    simp [TransferError.kind]
  | ok response =>
    simp only [failure?] at h
    split at h
    · split at h
      · obtain rfl := Option.some.inj h
        simp [TransferError.kind]
      · split at h
        · obtain rfl := Option.some.inj h
          simp [TransferError.kind]
        · cases h
    · obtain rfl := Option.some.inj h
      rw [refusal, TransferError.kind]
      split <;> simp

/-- **What comes of a download** into a new file: what is wrong with the answer, or what the storage
answers. -/
theorem Call.outcome_download (c : Call) {d : Disk} {temp : TempFile} (hf : temp.Fresh d)
    (gate : ChecksumGate) (storage : Storage) (url : String) :
    (download gate storage url temp c.answer d).outcome =
      match gate.failure? url c.answer with
      | some e => .error e
      | none =>
        match (storage.replaceFile temp.path (d.setContent temp.id c.content)).2 with
        | .ok _ => .ok c.content.length
        | .error e => .error (.replace c.content.length e) := by
  rw [content]
  cases c.answer with
  | error text => rfl
  | ok response =>
    cases hs : response.isSuccess with
    | false => simp only [download, ChecksumGate.failure?, hs, Bool.false_eq_true, if_false, refuse]
    | true =>
      cases hc : streamError? response.body with
      | some text =>
        simp only [ChecksumGate.failure?, hs, hc, if_true]
        exact (download_broken (.of_offset hf.offset_eq d) hs hc gate storage url).1
      | none =>
        cases hm : gate.isMismatch (Sha256.hexDigest (received response.body)) with
        | true =>
          obtain ⟨events, taken, hd⟩ := download_of_mismatch storage url hf hs hc hm
          simp only [ChecksumGate.failure?, hs, hc, hm, if_true, hd]
        | false =>
          obtain ⟨events, taken, hd⟩ := download_of_passes storage url hf ⟨hs, hc, hm⟩
          have hnone : gate.failure? url (.ok response) = none := by
            simp only [ChecksumGate.failure?, hs, hc, hm, if_true, Bool.false_eq_true, if_false]
          cases hleft : (storage.replaceFile temp.path
              (d.setContent temp.id (received response.body))).2 with
          | ok left => simp only [hd, hnone, hleft]
          | error e => simp only [hd, hnone, hleft]

theorem TransferError.reason?_result (e : TransferError) : e.result.reason? = some e.message := by
  rw [result, TransferResult.withDetails]
  simp only [TransferResult.withBytesDownloaded, TransferResult.failed]
  split <;> rfl

/-! ## Transfers -/

namespace Call

variable {c : Call} {d d' : Disk} {dir : Place} {spot : Spot} {name : String}

/-- The node is a secondary that knows its primary. -/
def IsReady (c : Call) : Prop := c.node.isSecondary = true ∧ c.node.primary?.isSome = true

/-- **What comes of a transfer** whose destination is a directory or not, and whose temporary file
gets a path or none. -/
def outcome (c : Call) (isDir : Bool) (staged : Except FileError String) :
    Except TransferError Nat :=
  if c.node.isSecondary then
    match c.node.primary? with
    | none => .error .noPrimary
    | some primary =>
      if isDir then .error (.destinationIsDirectory c.path)
      else
        match staged with
        | .error e => .error (.tempFile (some c.path) e)
        | .ok tempPath =>
          match (c.downloader.gate c.blob).failure? (primary.urlOf c.resource) c.answer with
          | some e => .error e
          | none =>
            match Disk.misnamed? c.path with
            | some e =>
              .error (.replace c.content.length (.file (.replace tempPath c.path e)))
            | none => .ok c.content.length
  else .error .notSecondary

theorem result_attempt_of_checkPreconditions {d₁ : Disk} {e : TransferError}
    (h : checkPreconditions c.node (.file c.path) d = (d₁, .error e)) :
    (c.attempt d).result = e.result := by
  have h' : checkPreconditions c.downloader.node c.blob.storage d = (d₁, .error e) := h
  simp only [attempt, Downloader.execute, h']
  rfl

theorem result_attempt_of_not_isReady (h : ¬c.IsReady) (d : Disk) (isDir : Bool)
    (staged : Except FileError String) :
    (c.attempt d).result = .ofOutcome (c.outcome isDir staged) := by
  rw [outcome]
  cases hs : c.node.isSecondary with
  | false =>
    have hpre : checkPreconditions c.node (.file c.path) d = (d, .error .notSecondary) := by
      rw [checkPreconditions, hs, if_neg Bool.false_ne_true]
    exact result_attempt_of_checkPreconditions hpre
  | true =>
    cases hp : c.node.primary? with
    | none =>
      have hpre : checkPreconditions c.node (.file c.path) d = (d, .error .noPrimary) := by
        simp only [checkPreconditions, hs, hp, if_true]
      exact result_attempt_of_checkPreconditions hpre
    | some primary => exact absurd ⟨hs, by rw [hp]; rfl⟩ h

theorem checkPreconditions_of_isReady (h : c.IsReady) (d : Disk) :
    ∃ primary, c.node.primary? = some primary ∧
      checkPreconditions c.node (.file c.path) d =
        ((checkDestination c.path d).1, (checkDestination c.path d).2.map fun _ => primary) := by
  obtain ⟨primary, hp⟩ := Option.isSome_iff_exists.1 h.2
  refine ⟨primary, hp, ?_⟩
  simp only [checkPreconditions, h.1, hp, if_true, Storage.file]

theorem result_attempt_of_isDir (hr : c.IsReady) (h : d.isDir c.path = true) :
    (c.attempt d).result = (TransferError.destinationIsDirectory c.path).result := by
  obtain ⟨primary, -, hpre⟩ := checkPreconditions_of_isReady hr d
  rw [checkDestination, if_pos h] at hpre
  exact result_attempt_of_checkPreconditions hpre

theorem result_attempt_of_ensureParentDir {e : FileError} (hr : c.IsReady)
    (h : d.isDir c.path = false) (he : (d.ensureParentDir c.path).2 = .error e) :
    (c.attempt d).result = (TransferError.createDestinationDir c.path e).result := by
  obtain ⟨primary, -, hpre⟩ := checkPreconditions_of_isReady hr d
  rw [checkDestination, h, if_neg Bool.false_ne_true, he] at hpre
  exact result_attempt_of_checkPreconditions hpre

/-- **The result of a transfer** to an ordinary destination. -/
theorem result_attempt (hd : d.WellFormed) (ho : d.Ordinary c.path spot name)
    (hn : d.NeverDraws name) :
    (c.attempt d).result = .ofOutcome (c.outcome (d.isDir c.path) (d.stagedPath c.path)) := by
  by_cases hr : c.IsReady
  swap
  · exact result_attempt_of_not_isReady hr d _ _
  obtain ⟨primary, hp, hpre⟩ := checkPreconditions_of_isReady hr d
  rw [outcome, if_pos hr.1]
  simp only [hp]
  cases hdir : d.isDir c.path with
  | true => exact result_attempt_of_isDir hr hdir
  | false =>
    rw [checkDestination, hdir, if_neg Bool.false_ne_true, ho.ensureParentDir_eq] at hpre
    rw [if_neg Bool.false_ne_true]
    have hstage : c.blob.stage d =
        (d.createTemp ((Path.parent? c.path).getD ".") {}).mapError (.tempFile (some c.path)) := rfl
    rw [Disk.stagedPath]
    cases hnew : d.createTemp ((Path.parent? c.path).getD ".") {} with
    | error e =>
      rw [hnew] at hstage
      have hpre' : checkPreconditions c.downloader.node c.blob.storage d = (d, .ok primary) := hpre
      simp only [attempt, Downloader.execute, hpre', hstage, Except.mapError, Except.map]
      rfl
    | ok r =>
      obtain ⟨d₂, temp⟩ := r
      rw [hnew] at hstage
      have hprep : c.downloader.Prepared c.blob d d d₂ primary temp := ⟨hpre, hstage⟩
      obtain ⟨dir, k, rfl, hst⟩ := ho.staged_of_createTemp hd hnew
      -- the file is in the directory of the destination, under another name
      have hreplace := (hst.setContent c.content).replaceFile_eq hd ho hdir (hn k).symm
      have hout := c.outcome_download (hprep.fresh (.refl temp d₂)).1 (c.downloader.gate c.blob)
        c.blob.storage (primary.urlOf c.resource)
      have hres : (c.attempt d).result = .ofOutcome (download (c.downloader.gate c.blob)
          c.blob.storage (primary.urlOf c.resource) temp c.answer d₂).outcome := by
        rw [attempt, hprep.execute_eq]
        rfl
      rw [hres, hout]
      simp only [Except.map]
      cases (c.downloader.gate c.blob).failure? (primary.urlOf c.resource) c.answer with
      | some e => rfl
      | none =>
        simp only [blob, Storage.file, hreplace]
        cases Disk.misnamed? c.path <;> rfl

/-! ## Failures -/

theorem of_outcome_eq_ok {isDir : Bool} {staged : Except FileError String} {n : Nat}
    (h : c.outcome isDir staged = .ok n) : isDir = false ∧ Disk.misnamed? c.path = none := by
  rw [outcome] at h
  split at h
  · split at h
    · cases h
    · split at h
      · cases h
      · rename_i hdir
        refine ⟨by simpa using hdir, ?_⟩
        split at h
        · cases h
        · split at h
          · cases h
          · split at h
            · cases h
            · assumption
  · cases h

/-- **A transfer that is ready and whose destination can be used** does not fail on a
precondition. -/
theorem failureKind?_ne_precondition (hd : d.WellFormed) (ho : d.Ordinary c.path spot name)
    (hn : d.NeverDraws name) (hr : c.IsReady) (hdir : d.isDir c.path = false) :
    (c.attempt d).result.failureKind? ≠ some .precondition := by
  obtain ⟨primary, hp⟩ := Option.isSome_iff_exists.1 hr.2
  have hkind : ∀ e : TransferError, e.kind ≠ .precondition →
      (TransferResult.ofOutcome (.error e)).failureKind? ≠ some .precondition := by
    intro e he h
    exact he (Option.some.inj (e.failureKind?_result.symm.trans h))
  rw [result_attempt hd ho hn, hdir, outcome, if_pos hr.1]
  simp only [hp, Bool.false_eq_true, if_false]
  cases d.stagedPath c.path with
  | error e => exact hkind _ (by simp [TransferError.kind])
  | ok tempPath =>
    cases hfailure : (c.downloader.gate c.blob).failure? (primary.urlOf c.resource) c.answer with
    | some e => exact hkind _ (ChecksumGate.kind_of_failure? hfailure)
    | none =>
      cases Disk.misnamed? c.path with
      | some e => exact hkind _ (by simp [TransferError.kind])
      | none => simp [TransferResult.ofOutcome, TransferResult.success, TransferResult.failureKind?]

/-! ## The tree -/

/-- **After a transfer** to an ordinary destination, everything is where it was, or a file covers
what was at the destination. -/
theorem covers_attempt (hd : d.WellFormed) (ho : d.Ordinary c.path spot name)
    (hn : d.NeverDraws name) :
    (∀ p, (c.attempt d).disk.get? p = d.get? p) ∨
      d.isDir c.path = false ∧ Disk.misnamed? c.path = none ∧
        ∃ p, spot.child? name = some p ∧ d.Covers (c.attempt d).disk p := by
  obtain ⟨-, hb, hcases⟩ := c.attempt_cases hd (ho.name_eq ▸ hn)
  simp only [ho.ensureParentDir_eq] at hcases
  rcases hcases with ⟨-, hsame | hsame⟩ | ⟨hs, -, p, hdest, hitem, hothers⟩
  · exact .inl fun p => by rw [hsame]
  · exact .inl fun p => (hsame p).entry
  · obtain ⟨hdir, hnamed⟩ : d.isDir c.path = false ∧ Disk.misnamed? c.path = none := by
      rw [result_attempt hd ho hn] at hs
      cases hout : c.outcome (d.isDir c.path) (d.stagedPath c.path) with
      | error e =>
        rw [hout] at hs
        exact absurd hs (e.result_ne_success _)
      | ok n => exact of_outcome_eq_ok hout
    obtain ⟨hcheck, hshort, -⟩ := Disk.misnamed?_eq_none.1 hnamed
    obtain ⟨-, dir, last, slash, hloc, rfl⟩ := Disk.destination?_eq_some_iff.1 hdest
    rw [ho.ensureParentDir_eq] at hloc
    have hplace : (Spot.place dir).child? last = some (dir ++ [last]) := rfl
    obtain ⟨rfl, rfl⟩ := Spot.child?_inj (ho.child?_of_locate hd hloc) hplace
    rw [ho.name_eq] at hshort
    refine .inr ⟨hdir, hnamed, _, rfl, hb, fun q hq => (hothers q hq).entry, ?_,
      ho.get?_ne_directory hd hcheck hshort hdir⟩
    rw [Disk.item?, Option.map_eq_some_iff] at hitem
    obtain ⟨e, he, hfile⟩ := hitem
    cases e with
    | file id => exact ⟨id, he⟩
    | directory => cases hfile
    | link target => cases hfile

end Call

end Replica
