import Mathlib.Data.List.Basic
import Replica.Proofs.Transfer.Cutting

/-!
# The fields of a result

A result is sent as six fields. Kept on their own, nothing ties them to each other; made and amended
in the ways there are, they agree.

* `ResultFields`: six fields, and what is done to each of them when a result is made or amended;
* `TransferResult.fields`, **`fields_amendAll`**: the fields of a result are changed in that way;
* `ResultOrigin`, `Amendment`: all the ways to make a result and to amend it;
* `ResultFields.Agree`: fields that agree with each other and with what was given for them;
  **`ResultFields.Agree.amendAll`**: they still do after any amendments;
* **`result_consistent`**: what holds of every result.
-/

namespace Replica

/-! ## Amendments -/

/-- A change to a result that has been made. -/
inductive Amendment where
  | bytes (count : Nat)
  | details (details : Details)

namespace Amendment

/-- The count that is given, if one is. -/
def count? : Amendment → Option Nat
  | bytes count => some count
  | details _ => none

/-- The diagnostics that are given, if there are any. -/
def details? : Amendment → Option Details
  | bytes _ => none
  | details d => if d.isEmpty then none else some d

end Amendment

/-- The last count that is given. -/
def lastCount? (amendments : List Amendment) : Option Nat :=
  (amendments.filterMap Amendment.count?).getLast?

/-- The last diagnostics that are given and not empty. -/
def lastDetails? (amendments : List Amendment) : Option Details :=
  (amendments.filterMap Amendment.details?).getLast?

theorem lastCount?_concat (amendments : List Amendment) (a : Amendment) :
    lastCount? (amendments ++ [a]) = a.count?.or (lastCount? amendments) := by
  cases a <;> simp [lastCount?, Amendment.count?]

theorem lastDetails?_concat (amendments : List Amendment) (a : Amendment) :
    lastDetails? (amendments ++ [a]) = a.details?.or (lastDetails? amendments) := by
  rw [lastDetails?, lastDetails?, List.filterMap_append]
  cases h : a.details? <;> simp [h]

theorem isEmpty_of_lastDetails? {amendments : List Amendment} {d : Details}
    (h : lastDetails? amendments = some d) : d.isEmpty = false := by
  obtain ⟨a, -, ha⟩ := List.mem_filterMap.1 (List.mem_of_getLast? h)
  cases a with
  | bytes count => cases ha
  | details d' =>
    rw [Amendment.details?] at ha
    split at ha
    · cases ha
    · rename_i hd
      obtain rfl := Option.some.inj ha
      exact Bool.eq_false_iff.2 hd

/-! ## Six fields -/

/-- **The fields of a result**, each on its own. -/
@[ext] structure ResultFields where
  success : Bool
  bytesDownloaded : Nat
  primaryMissingFile : Bool
  reason? : Option String
  details? : Option Details
  failureKind? : Option FailureKind

namespace ResultFields

/-- A success with this many octets. -/
def ofSuccess (count : Nat) : ResultFields := ⟨true, count, false, none, none, none⟩

/-- A failure of a kind. The flag is set for the one kind that it stands for. -/
def ofFailure (kind : FailureKind) (reason : String) : ResultFields :=
  ⟨false, 0, kind = .primaryMissingFile, some reason, none, some kind⟩

/-- An amendment sets one field. Diagnostics are for failures only, and empty ones are ignored. -/
def amend (f : ResultFields) : Amendment → ResultFields
  | .bytes count => { f with bytesDownloaded := count }
  | .details d => { f with details? := if !f.success && !d.isEmpty then some d else f.details? }

/-- One amendment after the other. -/
def amendAll (f : ResultFields) (amendments : List Amendment) : ResultFields :=
  amendments.foldl amend f

end ResultFields

namespace TransferResult

/-- The result with one amendment. -/
def amend (r : TransferResult) : Amendment → TransferResult
  | .bytes count => r.withBytesDownloaded count
  | .details d => r.withDetails d

/-- The result with one amendment after the other. -/
def amendAll (r : TransferResult) (amendments : List Amendment) : TransferResult :=
  amendments.foldl amend r

/-- The fields as they are seen. -/
def fields (r : TransferResult) : ResultFields :=
  ⟨r.isSuccess, r.bytesDownloaded, r.primaryMissingFile, r.reason?, r.details?, r.failureKind?⟩

theorem fields_success (count : Nat) : (success count).fields = .ofSuccess count := rfl

theorem fields_failed (kind : FailureKind) (reason : String) :
    (failed kind reason).fields = .ofFailure kind reason := by
  cases kind <;> rfl

theorem fields_amend (r : TransferResult) (a : Amendment) :
    (r.amend a).fields = r.fields.amend a := by
  obtain ⟨count, failure?⟩ := r
  cases a with
  | bytes count' => rfl
  | details d =>
    cases failure? with
    | none => rfl
    | some f => cases hd : d.isEmpty <;> simp [amend, withDetails, hd, ResultFields.amend, fields,
        isSuccess, primaryMissingFile, reason?, details?, failureKind?]

/-- **The fields of an amended result.** -/
theorem fields_amendAll (r : TransferResult) (amendments : List Amendment) :
    (r.amendAll amendments).fields = r.fields.amendAll amendments := by
  induction amendments generalizing r with
  | nil => rfl
  | cons a amendments ih =>
    rw [amendAll, List.foldl_cons]
    exact (ih (r.amend a)).trans (congrArg (ResultFields.amendAll · amendments) (fields_amend r a))

end TransferResult

/-! ## How a result is made -/

/-- **A way to make a result**: as a success, as a failure, or from an error. -/
inductive ResultOrigin where
  | success (count : Nat)
  | failure (kind : FailureKind) (reason : String)
  | error (e : TransferError)

namespace ResultOrigin

/-- The result that is made. -/
def result : ResultOrigin → TransferResult
  | success count => .success count
  | failure kind reason => .failed kind reason
  | error e => e.result

/-- The fields of that result. An error turns into a failure, amended by what it carries. -/
def fields : ResultOrigin → ResultFields
  | success count => .ofSuccess count
  | failure kind reason => .ofFailure kind reason
  | error e =>
    (ResultFields.ofFailure e.kind e.message).amendAll
      [.bytes e.bytesDownloaded, .details e.details]

/-- What is given when the result is made. A failure begins with no octets. -/
def given : ResultOrigin → List Amendment
  | success count => [.bytes count]
  | failure _ _ => [.bytes 0]
  | error e => [.bytes 0, .bytes e.bytesDownloaded, .details e.details]

theorem fields_result (o : ResultOrigin) : o.result.fields = o.fields := by
  cases o with
  | success count => exact TransferResult.fields_success count
  | failure kind reason => exact TransferResult.fields_failed kind reason
  | error e =>
    have h := TransferResult.fields_amendAll (.failed e.kind e.message)
      [.bytes e.bytesDownloaded, .details e.details]
    rwa [TransferResult.fields_failed] at h

end ResultOrigin

/-! ## Fields that agree -/

/-- **Fields that agree**, with each other and with what was given for them. -/
structure ResultFields.Agree (f : ResultFields) (given : List Amendment) : Prop where
  reason : f.success = true ↔ f.reason? = none
  kind : f.success = true ↔ f.failureKind? = none
  missing : f.primaryMissingFile = true ↔ f.failureKind? = some .primaryMissingFile
  details : f.details? = if f.success then none else lastDetails? given
  count : lastCount? given = some f.bytesDownloaded

namespace ResultFields

variable {f : ResultFields} {given : List Amendment}

theorem agree_ofSuccess (count : Nat) : (ofSuccess count).Agree [.bytes count] :=
  ⟨by simp [ofSuccess], by simp [ofSuccess], by simp [ofSuccess], rfl, rfl⟩

theorem agree_ofFailure (kind : FailureKind) (reason : String) :
    (ofFailure kind reason).Agree [.bytes 0] :=
  ⟨by simp [ofFailure], by simp [ofFailure], by simp [ofFailure], rfl, rfl⟩

theorem Agree.amend (h : f.Agree given) (a : Amendment) : (f.amend a).Agree (given ++ [a]) := by
  have hdetails : lastDetails? (given ++ [a]) = a.details?.or (lastDetails? given) :=
    lastDetails?_concat given a
  have hcount : lastCount? (given ++ [a]) = a.count?.or (lastCount? given) :=
    lastCount?_concat given a
  cases a with
  | bytes count => exact ⟨h.reason, h.kind, h.missing, hdetails ▸ h.details, hcount⟩
  | details d =>
    refine ⟨h.reason, h.kind, h.missing, ?_, hcount.trans h.count⟩
    rw [hdetails]
    change (if !f.success && !d.isEmpty then some d else f.details?) =
      if f.success then none else (if d.isEmpty then none else some d).or (lastDetails? given)
    rw [h.details]
    cases f.success with
    | true => rfl
    | false => cases d.isEmpty <;> rfl

theorem Agree.amendAll (h : f.Agree given) (amendments : List Amendment) :
    (f.amendAll amendments).Agree (given ++ amendments) := by
  induction amendments generalizing f given with
  | nil => rwa [List.append_nil]
  | cons a amendments ih =>
    have hrest := ih (h.amend a)
    rwa [List.append_assoc] at hrest

theorem Agree.of_details (h : f.Agree given) {d : Details} (hd : f.details? = some d) :
    d.isEmpty = false ∧ f.success = false := by
  have hlast := h.details.symm.trans hd
  cases hs : f.success with
  | true => simp [hs] at hlast
  | false =>
    rw [hs] at hlast
    exact ⟨isEmpty_of_lastDetails? hlast, rfl⟩

end ResultFields

theorem ResultOrigin.agree_fields (o : ResultOrigin) : o.fields.Agree o.given := by
  cases o with
  | success count => exact ResultFields.agree_ofSuccess count
  | failure kind reason => exact ResultFields.agree_ofFailure kind reason
  | error e => exact (ResultFields.agree_ofFailure e.kind e.message).amendAll _

/-! ## What is derived from the fields -/

namespace TransferResult

/-- **No delay is given where no further attempt makes sense**: there was success, or a failure that
stays. -/
theorem retryDelay?_eq_none_iff (r : TransferResult) (attempt : Nat) (base : Duration) :
    r.retryDelay? attempt base = none ↔
      r.isSuccess = true ∨ r.failureKind? = some .precondition ∨
        r.failureKind? = some .primaryMissingFile := by
  obtain ⟨count, _ | ⟨kind, reason, details?⟩⟩ := r
  · exact ⟨fun _ => .inl rfl, fun _ => rfl⟩
  · cases kind <;> simp [isSuccess, failureKind?, retryDelay?, FailureKind.isRetryable]

end TransferResult

namespace TransferError

variable {e : TransferError}

theorem primaryMissingFile_result_iff :
    e.result.primaryMissingFile = true ↔
      ∃ status reason url, e = .httpStatus status reason url true := by
  rw [TransferResult.primaryMissingFile, failureKind?_result]
  cases e with
  | httpStatus status reason url missing => cases missing <;> simp [kind]
  | _ => simp [kind]

/-- **Some errors come before any octet**: those of preconditions, of the temporary file and of a
status. -/
theorem bytesDownloaded_eq_zero (h : e.kind = .precondition ∨ e.kind = .tempFile ∨
    ∃ status reason url missing, e = .httpStatus status reason url missing) :
    e.result.bytesDownloaded = 0 := by
  rw [bytesDownloaded_result]
  cases e with
  | download url bytes source => simp [kind] at h
  | checksumMismatch expected actual bytes => simp [kind] at h
  | replace bytes source => simp [kind] at h
  | _ => rfl

end TransferError

/-! ## Every result -/

/-- **The fields of every result agree**, whichever way it is made and however it is amended. They
come out as if each of the six were written on its own. A success, and nothing else, has no reason,
no kind of failure and the state of a success. The flag of a blob that the primary lacks goes with
that kind. Diagnostics are the last that were given and not empty, and only a failure has any; the
count is the last that was given. The state is terminal. No delay before a further attempt is ever
given if and only if the result is a success or a failure that stays. Made from an error, a result
has the flag if and only if the error is a status with the flag, and it counts no octets if the
error is one of a precondition, of the temporary file or of a status. -/
theorem result_consistent (o : ResultOrigin) (amendments : List Amendment) :
    let r := o.result.amendAll amendments
    r.fields = o.fields.amendAll amendments ∧
    (r.isSuccess = true ↔ r.reason? = none) ∧
    (r.isSuccess = true ↔ r.failureKind? = none) ∧
    (r.isSuccess = true ↔ r.state = .success) ∧
    (r.primaryMissingFile = true ↔ r.failureKind? = some .primaryMissingFile) ∧
    (∀ d, r.details? = some d → d.isEmpty = false ∧ r.isSuccess = false) ∧
    r.details? = (if r.isSuccess then none else lastDetails? (o.given ++ amendments)) ∧
    lastCount? (o.given ++ amendments) = some r.bytesDownloaded ∧
    r.state.isTerminal = true ∧
    ((∀ attempt base, r.retryDelay? attempt base = none) ↔
      r.isSuccess = true ∨ r.failureKind? = some .precondition ∨
        r.failureKind? = some .primaryMissingFile) ∧
    ∀ e : TransferError,
      (e.result.primaryMissingFile = true ↔
        ∃ status reason url, e = .httpStatus status reason url true) ∧
      (e.kind = .precondition ∨ e.kind = .tempFile ∨
          (∃ status reason url missing, e = .httpStatus status reason url missing) →
        e.result.bytesDownloaded = 0) := by
  intro r
  have hfields : r.fields = o.fields.amendAll amendments := by
    rw [TransferResult.fields_amendAll, o.fields_result]
  have hagree : r.fields.Agree (o.given ++ amendments) :=
    hfields ▸ o.agree_fields.amendAll amendments
  have hretry : (∀ attempt base, r.retryDelay? attempt base = none) ↔
      r.isSuccess = true ∨ r.failureKind? = some .precondition ∨
        r.failureKind? = some .primaryMissingFile :=
    ⟨fun h => (r.retryDelay?_eq_none_iff 0 .zero).1 (h 0 .zero),
      fun h attempt base => (r.retryDelay?_eq_none_iff attempt base).2 h⟩
  exact ⟨hfields, hagree.reason, hagree.kind, r.state_eq_success_iff.symm, hagree.missing,
    fun _ => hagree.of_details, hagree.details, hagree.count, r.isTerminal_state, hretry, fun _ =>
      ⟨TransferError.primaryMissingFile_result_iff, TransferError.bytesDownloaded_eq_zero⟩⟩

end Replica
