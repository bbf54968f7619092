import Mathlib.Data.List.Basic
import Replica.Proofs.Transfer.Promotion

/-!
# The states of a transfer

A transfer tells its state in the lines of its log and stores it nowhere. The states are those of a
machine: an attempt begins idle, may send its request, stream the body and verify it, in this order,
and ends in one terminal state.

* `TransferEvent.get?_line`: the state that a line of the log has in its field;
* `Attempt.states`, `Attempt.loggedStates`: the states that an attempt tells;
* `Course`: how a request can go on, with the states on the way and the last one;
  **`course_download`**: every download is one of these;
* **`states_execute`**: the states of an attempt, and when each of them is told.
-/

namespace Replica

/-! ## States in a log -/

/-- **The field `state` of a line** is the name of the state that the event tells. -/
theorem TransferEvent.get?_line (e : TransferEvent) :
    e.line.fields.get? "state" = e.state?.map fun s => .string s.name := by
  cases e with
  | finished result =>
    cases hr : result.reason? with
    | none => simp [line, finishedLine, hr, logLine, Dict.ofList, Dict.get?_insert, state?]
    | some reason => simp [line, finishedLine, hr, logLine, Dict.ofList, Dict.get?_insert, state?]
  | _ => simp [line, logLine, Dict.ofList, Dict.get?_insert, Dict.get?_empty, state?]

/-- The states that some events tell, in order. -/
def statesOf (events : List TransferEvent) : List TransferState :=
  events.filterMap TransferEvent.state?

theorem statesOf_append (events more : List TransferEvent) :
    statesOf (events ++ more) = statesOf events ++ statesOf more :=
  List.filterMap_append

theorem statesOf_cons {e : TransferEvent} {s : TransferState} (h : e.state? = some s)
    (events : List TransferEvent) : statesOf (e :: events) = s :: statesOf events :=
  List.filterMap_cons_some h

/-- **The states that an attempt tells.** -/
def Attempt.states (a : Attempt) : List TransferState := statesOf a.events

/-- What stands in the field `state` of the lines of its log. -/
def Attempt.loggedStates (a : Attempt) : List Json :=
  (a.events.map TransferEvent.line).filterMap fun l => l.fields.get? "state"

theorem Attempt.loggedStates_eq (a : Attempt) :
    a.loggedStates = a.states.map fun s => .string s.name := by
  simp only [loggedStates, states, statesOf, List.filterMap_map, List.map_filterMap]
  exact List.filterMap_congr fun e _ => e.get?_line

/-! ## Terminal states -/

theorem TransferState.isTerminal_terminalState (kind : FailureKind) :
    kind.terminalState.isTerminal = true := by
  cases kind <;> rfl

theorem TransferError.failureKind?_result (e : TransferError) :
    e.result.failureKind? = some e.kind := by
  rw [result, TransferResult.withDetails]
  simp only [TransferResult.withBytesDownloaded, TransferResult.failed]
  split <;> rfl

theorem TransferError.state_result (e : TransferError) : e.result.state = e.kind.terminalState := by
  rw [TransferResult.state, e.failureKind?_result]

theorem TransferResult.isTerminal_state (r : TransferResult) : r.state.isTerminal = true := by
  rw [state]
  split
  · exact TransferState.isTerminal_terminalState _
  · rfl

theorem TransferResult.state_eq_success_iff (r : TransferResult) :
    r.state = .success ↔ r.isSuccess = true := by
  rw [state, isSuccess, failureKind?]
  cases r.failure? with
  | none => simp
  | some f => cases hk : f.kind <;> simp [hk, FailureKind.terminalState]

namespace TransferState

variable {way : List TransferState} {last s : TransferState}

theorem mem_way_iff (hl : last.isTerminal = true) (hs : s.isTerminal = false) :
    s ∈ way ++ [last] ↔ s ∈ way := by
  have hne : s ≠ last := by
    rintro rfl
    rw [hl] at hs
    cases hs
  simp [hne]

theorem mem_end_iff (hw : ∀ t ∈ way, t.isTerminal = false) (hs : s.isTerminal = true) :
    s ∈ way ++ [last] ↔ last = s := by
  have hnot : s ∉ way := fun hm => by
    rw [hw s hm] at hs
    cases hs
  simp [hnot, eq_comm]

theorem filter_isTerminal (hw : ∀ t ∈ way, t.isTerminal = false) (hl : last.isTerminal = true) :
    (way ++ [last]).filter (·.isTerminal) = [last] := by
  have hnone : way.filter (·.isTerminal) = [] :=
    List.filter_eq_nil_iff.2 fun t ht => by rw [hw t ht]; nofun
  rw [List.filter_append, hnone, List.nil_append, List.filter_cons_of_pos hl, List.filter_nil]

end TransferState

/-! ## From an answer on -/

/-- **How a transfer goes on** with an answer: the states on the way, and the last one. -/
inductive Course (gate : ChecksumGate) (answer : Except String Response) :
    List TransferState → TransferState → Prop where
  | refused (h : ∀ response, answer = .ok response → response.isSuccess = false) :
      Course gate answer [] .transportFailed
  | broken {response : Response} (ha : answer = .ok response) (hs : response.isSuccess = true)
      (hc : streamError? response.body ≠ none) : Course gate answer [.streaming] .transportFailed
  | unverified {response : Response} {last : TransferState} (ha : answer = .ok response)
      (hs : response.isSuccess = true) (hc : streamError? response.body = none)
      (hr : gate.isRequired = false) (hl : last = .success ∨ last = .transportFailed) :
      Course gate answer [.streaming] last
  | verified {response : Response} {last : TransferState} (ha : answer = .ok response)
      (hs : response.isSuccess = true) (hc : streamError? response.body = none)
      (hr : gate.isRequired = true)
      (hl : last = .success ∨ last = .transportFailed ∨ last = .checksumFailed) :
      Course gate answer [.streaming, .verifying] last

namespace Course

variable {gate : ChecksumGate} {answer : Except String Response} {course : List TransferState}
  {last : TransferState}

theorem isPrefix (h : Course gate answer course last) : course <+: [.streaming, .verifying] := by
  cases h with
  | refused => exact List.nil_prefix
  | broken | unverified => exact ⟨[.verifying], rfl⟩
  | verified => exact List.prefix_rfl

theorem isTerminal_eq_false (h : Course gate answer course last) {s : TransferState}
    (hs : s ∈ .idle :: .requestSent :: course) : s.isTerminal = false := by
  have hm : s = .idle ∨ s = .requestSent ∨ s = .streaming ∨ s = .verifying := by
    rw [List.mem_cons, List.mem_cons] at hs
    exact hs.imp_right (.imp_right fun hc => by simpa using h.isPrefix.subset hc)
  rcases hm with rfl | rfl | rfl | rfl <;> rfl

theorem last_cases (h : Course gate answer course last) :
    last = .success ∨ last = .transportFailed ∨
      last = .checksumFailed ∧ course = [.streaming, .verifying] := by
  cases h with
  | refused | broken => exact .inr (.inl rfl)
  | unverified _ _ _ _ hl => exact hl.imp_right .inl
  | verified _ _ _ _ hl => exact hl.imp_right (.imp_right fun h => ⟨h, rfl⟩)

theorem streaming_mem_iff (h : Course gate answer course last) :
    .streaming ∈ course ↔ ∃ response, answer = .ok response ∧ response.isSuccess = true := by
  cases h with
  | refused h =>
    constructor
    · exact fun hm => absurd hm List.not_mem_nil
    · rintro ⟨response, ha, hs⟩
      rw [h response ha] at hs
      cases hs
  | broken ha hs | unverified ha hs | verified ha hs =>
    exact ⟨fun _ => ⟨_, ha, hs⟩, fun _ => List.mem_cons_self⟩

theorem verifying_mem_iff (h : Course gate answer course last) :
    .verifying ∈ course ↔
      (∃ response, answer = .ok response ∧ response.isSuccess = true ∧
        streamError? response.body = none) ∧ gate.isRequired = true := by
  cases h with
  | refused h =>
    constructor
    · exact fun hm => absurd hm List.not_mem_nil
    · rintro ⟨⟨response, ha, hs, -⟩, -⟩
      rw [h response ha] at hs
      cases hs
  | @broken response ha hs hc =>
    constructor
    · simp
    · rintro ⟨⟨response', ha', -, hc'⟩, -⟩
      obtain rfl : response = response' := Except.ok.inj (ha.symm.trans ha')
      exact absurd hc' hc
  | unverified ha hs hc hr => simp [hr]
  | verified ha hs hc hr =>
    exact ⟨fun _ => ⟨⟨_, ha, hs, hc⟩, hr⟩, fun _ => List.mem_cons_of_mem _ List.mem_cons_self⟩

end Course

/-! ## Downloads -/

variable {gate : ChecksumGate} {storage : Storage} {response : Response} {temp : TempFile}
  {d : Disk}

theorem error?_receive (d : Disk) (temp : TempFile) (hasher? : Option Sha256.Hasher)
    (body : List Piece) : (receive d temp hasher? body).error? = streamError? body := by
  induction body generalizing d temp hasher? with
  | nil => rfl
  | cons piece rest ih =>
    cases piece with
    | error text => rfl
    | octets bs => exact ih _ _ _

theorem isSome_hasher?_receive (d : Disk) (temp : TempFile) (hasher? : Option Sha256.Hasher)
    (body : List Piece) : (receive d temp hasher? body).hasher?.isSome = hasher?.isSome := by
  induction body generalizing d temp hasher? with
  | nil => rfl
  | cons piece rest ih =>
    cases piece with
    | error text => rfl
    | octets bs => exact (ih _ _ _).trans Option.isSome_map

theorem promote_states (storage : Storage) (r : Received) :
    statesOf (promote storage r).events = [] ∧
      ((TransferResult.ofOutcome (promote storage r).outcome).state = .success ∨
        (TransferResult.ofOutcome (promote storage r).outcome).state = .transportFailed) := by
  rw [promote]
  cases (storage.replaceFile r.temp.path r.disk).2 with
  | error e => exact ⟨rfl, .inr (TransferError.state_result _)⟩
  | ok left =>
    cases left with
    | none => exact ⟨rfl, .inl rfl⟩
    | some e => exact ⟨rfl, .inl rfl⟩

theorem verifyAndPromote_states (gate : ChecksumGate) (storage : Storage) {r : Received}
    (h : r.hasher?.isSome = true) :
    statesOf (verifyAndPromote gate storage r).events = [.verifying] ∧
      ((TransferResult.ofOutcome (verifyAndPromote gate storage r).outcome).state = .success ∨
        (TransferResult.ofOutcome (verifyAndPromote gate storage r).outcome).state =
          .transportFailed ∨
        (TransferResult.ofOutcome (verifyAndPromote gate storage r).outcome).state =
          .checksumFailed) := by
  obtain ⟨hasher, hh⟩ := Option.isSome_iff_exists.1 h
  obtain ⟨hstates, hlast⟩ := promote_states storage r
  simp only [verifyAndPromote, hh]
  split
  · exact ⟨rfl, .inr (.inr (TransferError.state_result _))⟩
  · exact ⟨congrArg (TransferState.verifying :: ·) hstates, hlast.imp_right .inl⟩

theorem course_save (gate : ChecksumGate) (storage : Storage) (url : String) (temp : TempFile)
    (d : Disk) (hs : response.isSuccess = true) :
    Course gate (.ok response) (statesOf (save gate storage url temp response d).events)
      (TransferResult.ofOutcome (save gate storage url temp response d).outcome).state := by
  have herror := error?_receive d temp
    (if gate.isRequired then some Sha256.Hasher.new else none) response.body
  have hhasher := isSome_hasher?_receive d temp
    (if gate.isRequired then some Sha256.Hasher.new else none) response.body
  rw [save]
  generalize receive d temp (if gate.isRequired then some Sha256.Hasher.new else none)
    response.body = r at herror hhasher
  cases hc : streamError? response.body with
  | some text =>
    rw [hc] at herror
    have hlast := TransferError.state_result (.download url r.bytes (.text text))
    simp only [herror]
    exact hlast ▸ .broken rfl hs (by rw [hc]; nofun)
  | none =>
    rw [hc] at herror
    simp only [herror]
    cases hr : gate.isRequired with
    | false =>
      have hnone : r.hasher? = none := by simpa [hr] using hhasher
      obtain ⟨hstates, hlast⟩ := promote_states storage r
      have hsame : verifyAndPromote gate storage r = promote storage r := by
        simp only [verifyAndPromote, hnone]
      rw [hsame, statesOf_cons rfl, hstates]
      exact .unverified rfl hs hc hr hlast
    | true =>
      have hsome : r.hasher?.isSome = true := by simpa [hr] using hhasher
      obtain ⟨hstates, hlast⟩ := verifyAndPromote_states gate storage hsome
      rw [statesOf_cons rfl, hstates]
      exact .verified rfl hs hc hr hlast

/-- **Every download takes one of the courses.** -/
theorem course_download (gate : ChecksumGate) (storage : Storage) (url : String) (temp : TempFile)
    (answer : Except String Response) (d : Disk) :
    Course gate answer (statesOf (download gate storage url temp answer d).events)
      (TransferResult.ofOutcome (download gate storage url temp answer d).outcome).state := by
  cases answer with
  | error text =>
    have hlast := TransferError.state_result (.download url 0 (.text text))
    exact hlast ▸ .refused nofun
  | ok response =>
    cases hs : response.isSuccess with
    | true =>
      rw [download, if_pos hs]
      exact course_save gate storage url temp d hs
    | false =>
      have hlast : (refusal url response).result.state = .transportFailed := by
        rw [TransferError.state_result, refusal, TransferError.kind]
        split <;> rfl
      rw [download, hs]
      refine hlast ▸ .refused ?_
      rintro _ ⟨⟩
      exact hs

namespace Downloader

variable {dl : Downloader} {b : Blob} {d₁ d₂ : Disk} {primary : Primary}

/-! ## The whole attempt -/

theorem kind_of_checkPreconditions {node : Node} {e : TransferError}
    (h : (checkPreconditions node storage d).2 = .error e) : e.kind = .precondition := by
  rw [checkPreconditions] at h
  split at h
  · split at h
    · cases h
      rfl
    · split at h
      · cases h
      · rename_i path _
        simp only [checkDestination] at h
        split at h
        · cases h
          rfl
        · cases hp : (d.ensureParentDir path).2 with
          | ok u => simp [hp, Except.mapError, Except.map] at h
          | error source =>
            simp only [hp, Except.mapError, Except.map, Except.error.injEq] at h
            rw [← h]
            rfl
  · cases h
    rfl

theorem kind_of_stage {e : TransferError} (h : b.stage d = .error e) : e.kind = .tempFile := by
  rw [Blob.stage, mapError_eq_error] at h
  obtain ⟨source, -, rfl⟩ := h
  rfl

theorem states_abandon (d : Disk) (e : TransferError) :
    (abandon d e).states = [.idle, e.kind.terminalState] := by
  rw [← e.state_result]
  cases e <;> rfl

/-- **An attempt without a request** ends at once. -/
theorem states_of_not_prepared
    (h : ∀ d₁ d₂ primary temp, ¬dl.Prepared b d d₁ d₂ primary temp) :
    (dl.execute b d).requests = [] ∧
      (dl.execute b d).states = [.idle, .preconditionFailed] ∧
      (dl.execute b d).result.state = .preconditionFailed := by
  cases hpre : checkPreconditions dl.node b.storage d with
  | mk d₁ r =>
    cases r with
    | error e =>
      have hkind : e.kind = .precondition :=
        kind_of_checkPreconditions (congrArg Prod.snd hpre)
      have hexec : dl.execute b d = abandon d₁ e := by simp only [execute, hpre]
      have hlast : e.result.state = .preconditionFailed := by rw [e.state_result, hkind]; rfl
      rw [hexec, states_abandon, hkind]
      exact ⟨rfl, rfl, hlast⟩
    | ok primary =>
      cases hstage : b.stage d₁ with
      | error e =>
        have hkind : e.kind = .tempFile := kind_of_stage hstage
        have hexec : dl.execute b d = abandon d₁ e := by simp only [execute, hpre, hstage]
        have hlast : e.result.state = .preconditionFailed := by rw [e.state_result, hkind]; rfl
        rw [hexec, states_abandon, hkind]
        exact ⟨rfl, rfl, hlast⟩
      | ok r => exact absurd ⟨hpre, hstage⟩ (h d₁ r.1 primary r.2)

/-- **An attempt with a request** takes one of the courses after it. -/
theorem Prepared.states_eq (h : dl.Prepared b d d₁ d₂ primary temp) :
    (dl.execute b d).requests = [(dl.request primary b, d₂)] ∧
      ∃ course, Course (dl.gate b) (dl.client (dl.request primary b) d₂).2 course
          (dl.execute b d).result.state ∧
        (dl.execute b d).states =
          .idle :: .requestSent :: course ++ [(dl.execute b d).result.state] := by
  rw [h.execute_eq]
  have hcourse := course_download (dl.gate b) b.storage (dl.request primary b).url temp
    (dl.client (dl.request primary b) d₂).2 (dl.client (dl.request primary b) d₂).1
  refine ⟨rfl, _, hcourse, ?_⟩
  rw [Attempt.states, fetch]
  simp only [List.cons_append, List.append_assoc]
  rw [statesOf_cons rfl, statesOf_cons rfl, statesOf_append, statesOf_append]
  -- that a temporary file is left is told without a state
  generalize (Disk.closeTemp _ temp).2 = closed
  cases closed <;> rfl

theorem isRequired_gate_iff :
    (dl.gate b).isRequired = true ↔ ∃ declared, dl.Requires b declared := by
  constructor
  · intro h
    obtain ⟨declared, hd⟩ := Option.isSome_iff_exists.1 h
    obtain ⟨hc, hp⟩ := Option.filter_eq_some_iff.1 hd
    obtain ⟨he, hb⟩ := Bool.and_eq_true_iff.1 hp
    refine ⟨declared, he, hc, fun hblank => ?_⟩
    rw [(Text.isBlankText_iff declared).2 hblank] at hb
    cases hb
  · rintro ⟨declared, h⟩
    rw [ChecksumGate.isRequired, h.expected?_gate]
    rfl

/-- **The states of a transfer.** An attempt begins idle, goes through a beginning of request,
stream and verification, and ends in one terminal state, that of its result; this is what the lines
of its log say. The request is told if and only if it is made, the stream if and only if the
response is a success, and the verification if and only if that was received to its end and a
checksum is required. An attempt fails on a precondition if and only if it makes no request, on a
checksum only right after the verification, and it is told to succeed if and only if it does. -/
theorem states_execute (dl : Downloader) (b : Blob) (d : Disk) :
    (∃ way, way <+: [.requestSent, .streaming, .verifying] ∧
      (dl.execute b d).states = .idle :: way ++ [(dl.execute b d).result.state]) ∧
    (dl.execute b d).states.filter (·.isTerminal) = [(dl.execute b d).result.state] ∧
    (dl.execute b d).loggedStates = (dl.execute b d).states.map (fun s => .string s.name) ∧
    (.requestSent ∈ (dl.execute b d).states ↔ (dl.execute b d).requests ≠ []) ∧
    (.streaming ∈ (dl.execute b d).states ↔
      ∃ response, dl.Receives b d response ∧ 200 ≤ response.status ∧ response.status ≤ 299) ∧
    (.verifying ∈ (dl.execute b d).states ↔
      (∃ response, dl.Receives b d response ∧ 200 ≤ response.status ∧ response.status ≤ 299 ∧
        streamError? response.body = none) ∧ ∃ declared, dl.Requires b declared) ∧
    (.preconditionFailed ∈ (dl.execute b d).states ↔
      .requestSent ∉ (dl.execute b d).states) ∧
    (∀ before after, (dl.execute b d).states = before ++ .checksumFailed :: after →
      before.getLast? = some .verifying) ∧
    (.success ∈ (dl.execute b d).states ↔ (dl.execute b d).result.isSuccess = true) := by
  rw [Attempt.loggedStates_eq, ← TransferResult.state_eq_success_iff]
  rcases execute_cases dl b d with ⟨e, -, hnot⟩ | ⟨d₁, d₂, primary, temp, h⟩
  · obtain ⟨hreq, hstates, hlast⟩ := states_of_not_prepared hnot
    have hnone : ∀ response, ¬dl.Receives b d response :=
      fun response ⟨_, _, _, _, h, _⟩ => hnot _ _ _ _ h
    rw [hreq, hstates, hlast]
    refine ⟨⟨[], List.nil_prefix, rfl⟩, rfl, rfl, by simp, by simp [hnone], by simp [hnone],
      by simp, fun before after h => ?_, by simp⟩
    have hm : TransferState.checksumFailed ∈ [TransferState.idle, .preconditionFailed] := by
      rw [h]
      simp
    simp at hm
  · obtain ⟨hreq, course, hc, hstates⟩ := h.states_eq
    have hway := fun s => hc.isTerminal_eq_false (s := s)
    have hlast := hc.last_cases
    have hend := TransferResult.isTerminal_state (dl.execute b d).result
    simp only [hreq, hstates, h.receives_iff]
    generalize (dl.execute b d).result.state = last at hc hlast hend
    refine ⟨⟨.requestSent :: course, List.cons_prefix_cons.2 ⟨rfl, hc.isPrefix⟩, rfl⟩,
      TransferState.filter_isTerminal hway hend, trivial, by simp, ?_, ?_, ?_, ?_, ?_⟩
    · rw [TransferState.mem_way_iff hend rfl]
      simpa [isSuccess_iff] using hc.streaming_mem_iff
    · rw [TransferState.mem_way_iff hend rfl, ← isRequired_gate_iff]
      simpa [isSuccess_iff, and_assoc] using hc.verifying_mem_iff
    · rw [TransferState.mem_end_iff hway rfl, TransferState.mem_way_iff hend rfl]
      rcases hlast with rfl | rfl | ⟨rfl, -⟩ <;> simp
    · intro before after hsplit
      have hnot : TransferState.checksumFailed ∉ .idle :: .requestSent :: course :=
        fun hm => nomatch hway _ hm
      obtain ⟨rfl, rfl, -⟩ := (List.append_cons_inj_of_notMem hnot List.not_mem_nil).1 hsplit
      rcases hlast with hl | hl | ⟨-, rfl⟩
      · cases hl
      · cases hl
      · rfl
    · rw [TransferState.mem_end_iff hway rfl]

end Downloader

end Replica
