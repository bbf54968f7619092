import Mathlib.Data.List.Basic
import Replica.Proofs.Config.Overrides
import Replica.Proofs.Transfer.Addresses
import Replica.Proofs.Transfer.Checks

/-!
# Blank addresses of a primary

The address of a primary comes from the environment, or else from a file. The one from the
environment is trimmed, and none if nothing is left; the one from a file is taken as it stands there,
blank or empty. Slashes at its end are dropped when it is no longer asked whether anything is left.

* `isHostless`: an address of blanks and slashes alone, whatever is dropped at its ends;
* `Config.NoAddress`, **`Config.BlankArrives`**: where there is no address in the end, and where
  there is one without a host;
* `Downloader.KnowsNoPrimary`: nothing is requested, and a secondary tells why;
* **`Downloader.hostless_requested_iff`**.
-/

namespace Replica

/-! ## Addresses without a host -/

/-- The address has only blanks and slashes, if anything. -/
def isHostless (url : String) : Bool := url.toList.all fun c => Text.isBlank c || c == '/'

variable {u v : String}

theorem isHostless_append : isHostless (u ++ v) = (isHostless u && isHostless v) := by
  rw [isHostless, String.toList_append, List.all_append]
  rfl

theorem isHostless_slashes (n : Nat) : isHostless (slashes n) = true := by
  simp [isHostless, slashes]

theorem isHostless_ofUrl (u : String) : isHostless (Primary.ofUrl u).url = isHostless u := by
  obtain ⟨⟨n, hn⟩, -⟩ := Primary.exists_slashes u
  conv_rhs => rw [hn, isHostless_append, isHostless_slashes, Bool.and_true]

theorem isHostless_trimmed (h : Text.Trimmed u v) : isHostless u = isHostless v := by
  obtain ⟨left, right, hu, hl, hr⟩ := h.between
  have hblank : ∀ cs : List Char, (∀ c ∈ cs, Text.isBlank c = true) →
      cs.all (fun c => Text.isBlank c || c == '/') = true := fun cs hcs =>
    List.all_eq_true.2 fun c hc => by rw [hcs c hc, Bool.true_or]
  rw [isHostless, hu, List.all_append, List.all_append, hblank left hl, hblank right hr,
    Bool.true_and, Bool.and_true]
  rfl

theorem isBlankText_trimmed (h : Text.Trimmed u v) : Text.isBlankText u = true ↔ v = "" := by
  rw [Text.isBlankText_iff, Text.trim_eq_iff.2 h]

/-! ## Where an address comes from -/

namespace Config

variable {d : Disk} {path : String} {env : String → Option String} {c c' : Config}

/-- **There is no address** in the end: the one of the environment is blank, or there is none and
the file has none. -/
def NoAddress (d : Disk) (path : String) (env : String → Option String) : Prop :=
  (∃ url, env primaryUrlVariable = some url ∧ Text.isBlankText url = true) ∨
    env primaryUrlVariable = none ∧ ∃ c, FileGives d path c ∧ c.node.primaryUrl? = none

/-- **An address without a host arrives**: one of the environment that has a slash, or any of the
file, the empty one included. -/
def BlankArrives (d : Disk) (path : String) (env : String → Option String) : Prop :=
  (∃ url, env primaryUrlVariable = some url ∧ isHostless url = true ∧
      Text.isBlankText url = false) ∨
    env primaryUrlVariable = none ∧
      ∃ c url, FileGives d path c ∧ c.node.primaryUrl? = some url ∧ isHostless url = true

theorem FileGives.unique (h : FileGives d path c) (h' : FileGives d path c') : c = c' :=
  Except.ok.inj ((ofFile_eq_ok_iff.2 h).symm.trans (ofFile_eq_ok_iff.2 h'))

theorem primaryUrl?_of_load (h : load d path env = .ok c) :
    (∃ url t, env primaryUrlVariable = some url ∧ Text.Trimmed url t ∧
      c.node.primaryUrl? = if t = "" then none else some t) ∨
    env primaryUrlVariable = none ∧
      ∃ c', FileGives d path c' ∧ c.node.primaryUrl? = c'.node.primaryUrl? := by
  obtain ⟨c', hfile, hrun⟩ := load_eq_ok_iff.1 h
  have hover := run_applyOverrides_eq_ok_iff.1 hrun
  cases henv : env primaryUrlVariable with
  | some url =>
    obtain ⟨t, ht, hc⟩ := hover.primaryUrl url henv
    exact .inl ⟨url, t, rfl, ht, hc⟩
  | none => exact .inr ⟨rfl, c', hfile, hover.primaryUrl_kept henv⟩

theorem primaryUrl?_eq_none_iff (h : load d path env = .ok c) :
    c.node.primaryUrl? = none ↔ NoAddress d path env := by
  rcases primaryUrl?_of_load h with ⟨url, t, henv, ht, hc⟩ | ⟨henv, c', hfile, hc⟩
  · simp [NoAddress, henv, hc, isBlankText_trimmed ht]
  · simp only [NoAddress, henv, hc, reduceCtorEq, false_and, exists_false, false_or, true_and]
    exact ⟨fun hn => ⟨c', hfile, hn⟩, fun ⟨c₀, h₀, hn⟩ => hfile.unique h₀ ▸ hn⟩

theorem exists_hostless_iff (h : load d path env = .ok c) :
    (∃ url, c.node.primaryUrl? = some url ∧ isHostless url = true) ↔ BlankArrives d path env := by
  rcases primaryUrl?_of_load h with ⟨url, t, henv, ht, hc⟩ | ⟨henv, c', hfile, hc⟩
  · simp only [BlankArrives, henv, hc, Option.some.injEq, exists_eq_left', isHostless_trimmed ht,
      ← Bool.not_eq_true, isBlankText_trimmed ht]
    by_cases hempty : t = "" <;> simp [hempty]
  · simp only [BlankArrives, henv, hc, reduceCtorEq, false_and, exists_false, false_or, true_and]
    exact ⟨fun ⟨url, hurl⟩ => ⟨c', url, hfile, hurl⟩,
      fun ⟨c₀, url, h₀, hurl⟩ => ⟨url, hfile.unique h₀ ▸ hurl⟩⟩

end Config

/-! ## Requests -/

namespace Downloader

variable {dl : Downloader} {b : Blob} {d : Disk} {path : String} {env : String → Option String}
  {c : Config}

/-- **No primary is known**: there is no address for any blob and no request, and a secondary tells
that this is the reason. -/
def KnowsNoPrimary (dl : Downloader) : Prop :=
  ∀ b d, dl.resourceUrl? b = none ∧ (dl.execute b d).requests = [] ∧
    (dl.node.isSecondary = true → (dl.execute b d).result = TransferError.noPrimary.result)

theorem knowsNoPrimary_iff : dl.KnowsNoPrimary ↔ dl.node.primary? = none := by
  constructor
  · intro h
    have hurl := (h ⟨⟨"", 0⟩, none, .file ""⟩ Disk.empty).1
    rwa [resourceUrl?, Node.urlOf?, Option.map_eq_none_iff] at hurl
  · intro hnone b d
    refine ⟨by rw [resourceUrl?, Node.urlOf?, hnone, Option.map_none], ?_, fun hrole => ?_⟩
    · refine List.eq_nil_iff_forall_not_mem.2 fun q hq => ?_
      obtain ⟨-, primary, hknown, -⟩ := url_of_mem_requests hq
      rw [hnone] at hknown
      cases hknown
    · simp only [execute, checkPreconditions, hrole, hnone, if_true]
      rfl

theorem exists_request (hd : d.WellFormed) (hrole : dl.node.role = .secondary)
    (hknown : dl.node.primary?.isSome = true)
    (h : ∀ k ∈ [Check.directory, .parent, .staging], dl.passes b d k = true) :
    ∃ q, (dl.execute b d).requests = [q] := by
  have hall : ∀ k, dl.passes b d k = true := fun k => by
    cases k with
    | role => exact beq_iff_eq.2 hrole
    | primary => exact hknown
    | directory => exact h _ (by decide)
    | parent => exact h _ (by decide)
    | staging => exact h _ (by decide)
  obtain ⟨d₂, primary, temp, -, hp⟩ := prepared_of_passes hd hall
  exact ⟨_, hp.states_eq.1⟩

/-- **Which requests have no host.** A node knows no primary if and only if its configuration has no
address in the end. An address of blanks and slashes alone stands for no primary, too, but where it
arrives with a slash from the environment, or in any form from the file, it is taken for one. Then
all requests are for such an address with the path of the blob behind it, and a secondary requests
each blob that nothing else prevents. Where none arrives, no request is for such an address. -/
theorem hostless_requested_iff (h : Config.load d path env = .ok c) (client : Client)
    (headers : Resource → List (String × String)) :
    let dl := ofConfig client headers c
    (dl.KnowsNoPrimary ↔ Config.NoAddress d path env) ∧
    (((∀ url, c.node.primaryUrl? = some url → isHostless url = true) → dl.KnowsNoPrimary) ↔
      ¬Config.BlankArrives d path env) ∧
    (∀ b d', ∀ q ∈ (dl.execute b d').requests, ∃ host,
      q.1.url = host ++ ("/api/v4/geo/retrieve/" ++ b.resource.text) ∧
        (isHostless host = true ↔ Config.BlankArrives d path env)) ∧
    (Config.BlankArrives d path env → c.node.role = .secondary → ∀ b d', d'.WellFormed →
      (∀ k ∈ [Check.directory, .parent, .staging], dl.passes b d' k = true) →
      ∃ q, (dl.execute b d').requests = [q]) := by
  intro dl
  have hnode : dl.node.primary? = c.node.primaryUrl?.map Primary.ofUrl := rfl
  have hknows : dl.KnowsNoPrimary ↔ c.node.primaryUrl? = none := by
    rw [knowsNoPrimary_iff, hnode, Option.map_eq_none_iff]
  have hblank := Config.exists_hostless_iff h
  refine ⟨hknows.trans (Config.primaryUrl?_eq_none_iff h), ?_, fun b d' q hq => ?_,
    fun harrives hrole b d' hd' hpasses => ?_⟩
  · rw [← hblank, hknows]
    cases c.node.primaryUrl? with
    | none => simp
    | some url => simp
  · obtain ⟨-, primary, hknown, hurl⟩ := url_of_mem_requests hq
    obtain ⟨url, hc, rfl⟩ := Option.map_eq_some_iff.1 (hnode.symm.trans hknown)
    refine ⟨_, hurl.trans (Primary.urlOf_eq _ _), ?_⟩
    rw [isHostless_ofUrl, ← hblank, hc]
    simp
  · obtain ⟨url, hc, -⟩ := hblank.2 harrives
    have hknown : dl.node.primary?.isSome = true := by
      rw [hnode, hc]
      rfl
    exact exists_request hd' hrole hknown hpasses

/-- A tree with the configuration of a secondary, whose primary is at two blanks. -/
def blankFile : Disk :=
  ((Disk.empty.newFile defaultMode).1.setContent 0
    (octets "[node]\nrole = \"secondary\"\nprimary_url = \"  \"\n")).put ["config"] (.file 0)

/-- **There are such requests**: the blanks of the file are taken for an address. -/
theorem hostless_requested :
    ∃ c, Config.load blankFile "/config" (fun _ => none) = .ok c ∧
      (∀ url, c.node.primaryUrl? = some url → isHostless url = true) ∧
      ∃ q, ((ofConfig twoPieces.client twoPieces.headers c).execute threeOctets
          Disk.empty).requests = [q] ∧ q.1.url = "  /api/v4/geo/retrieve/upload/1" := by
  have hload : (Config.load blankFile "/config" fun _ => none).toOption =
      some { node := ⟨.secondary, some "  "⟩ } := by decide +kernel
  refine ⟨_, toOption_eq_some.1 hload, fun url hurl => ?_, ?_⟩
  · rw [← Option.some.inj hurl]
    decide
  · have hone : (((ofConfig twoPieces.client twoPieces.headers
        { node := ⟨.secondary, some "  "⟩ }).execute threeOctets Disk.empty).requests.map
        fun q => q.1.url) = ["  /api/v4/geo/retrieve/upload/1"] := by decide +kernel
    obtain ⟨q, hq, hurl⟩ := List.map_eq_singleton_iff.1 hone
    exact ⟨q, hq, hurl⟩

/-- The environment of a secondary, with this address of its primary. -/
def secondaryEnv (url : String) (name : String) : Option String :=
  if name = roleVariable then some "secondary"
  else if name = primaryUrlVariable then some url
  else none

/-- Blanks in the environment are no address, and with a slash between them they are one. -/
theorem hostless_requested_iff_environment :
    (∃ c, Config.load Disk.empty "/config" (secondaryEnv "  ") = .ok c ∧
      (ofConfig twoPieces.client twoPieces.headers c).KnowsNoPrimary) ∧
    ∃ c, Config.load Disk.empty "/config" (secondaryEnv " / ") = .ok c ∧
      Config.BlankArrives Disk.empty "/config" (secondaryEnv " / ") ∧
      c.node.role = .secondary ∧ Disk.empty.WellFormed ∧
      (∀ k ∈ [Check.directory, .parent, .staging],
        (ofConfig twoPieces.client twoPieces.headers c).passes threeOctets Disk.empty k = true) ∧
      ∃ q host, ((ofConfig twoPieces.client twoPieces.headers c).execute threeOctets
          Disk.empty).requests = [q] ∧
        q.1.url = host ++ ("/api/v4/geo/retrieve/" ++ threeOctets.resource.text) ∧
        isHostless host = true := by
  have hblank : Config.load Disk.empty "/config" (secondaryEnv "  ") =
      .ok { node := ⟨.secondary, none⟩ } := rfl
  have hslash : Config.load Disk.empty "/config" (secondaryEnv " / ") =
      .ok { node := ⟨.secondary, some "/"⟩ } := rfl
  have hno : Config.NoAddress Disk.empty "/config" (secondaryEnv "  ") :=
    .inl ⟨"  ", rfl, by decide⟩
  have harrives : Config.BlankArrives Disk.empty "/config" (secondaryEnv " / ") :=
    .inl ⟨" / ", rfl, by decide, by decide⟩
  have hpasses : ∀ k ∈ [Check.directory, .parent, .staging],
      (ofConfig twoPieces.client twoPieces.headers { node := ⟨.secondary, some "/"⟩ }).passes
        threeOctets Disk.empty k = true := by decide +kernel
  obtain ⟨hknows, -⟩ := hostless_requested_iff hblank twoPieces.client twoPieces.headers
  obtain ⟨-, -, hhost, hone⟩ := hostless_requested_iff hslash twoPieces.client twoPieces.headers
  obtain ⟨q, hq⟩ := hone harrives rfl threeOctets Disk.empty Disk.wellFormed_empty hpasses
  obtain ⟨host, hurl, hiff⟩ := hhost threeOctets Disk.empty q (hq ▸ List.mem_singleton_self q)
  exact ⟨⟨_, hblank, hknows.2 hno⟩, _, hslash, harrives, rfl, Disk.wellFormed_empty, hpasses, q,
    host, hq, hurl, hiff.2 harrives⟩

end Downloader

end Replica
