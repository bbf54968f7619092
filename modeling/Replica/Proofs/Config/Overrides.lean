import Replica.Config.Load
import Replica.Proofs.Fallible
import Replica.Proofs.Text.Blank

/-!
# Overrides from the environment

The role counts before the address of the primary, and a role that is none ends the overrides
before anything has been set.

* `Role.Normal`, `Role.Names`, `Role.Unknown`: what a text says about the role;
* `Role.ofText_eq_ok_iff`, `Role.ofText_eq_error_iff`: how it is read;
* `Config.Overridden`: what the overrides make of a configuration;
* `run_applyOverrides_eq_ok_iff`, `run_applyOverrides_eq_error_iff`: the two outcomes;
* `Config.FileGives`, `Config.FileFails`: the configuration in a file, or the default one;
* **`overrides_all_or_nothing`**.
-/

namespace Replica

namespace Role

/-- `name` is the text without the blanks at its two ends, and with small letters for the capitals
of ASCII. -/
def Normal (text name : String) : Prop :=
  ∃ t, Text.Trimmed text t ∧ name.toList = t.toList.map Char.toLower

/-- The text is the name of the role, or says nothing and so that there is no configuration. -/
def Names (text : String) (r : Role) : Prop :=
  Normal text r.name ∨ Normal text "" ∧ r = .unconfigured

/-- The text is no role, but this name. -/
def Unknown (text name : String) : Prop :=
  Normal text name ∧ name ∉ ["", "primary", "secondary", "unconfigured"]

theorem normal_iff {text name : String} : Normal text name ↔ normalize text = name := by
  constructor
  · rintro ⟨t, ht, hname⟩
    rw [normalize, Text.trim_eq_iff.2 ht, ← hname, String.ofList_toList]
  · rintro rfl
    exact ⟨Text.trim text, Text.trimmed_trim text, by rw [normalize, String.toList_ofList]⟩

theorem ofName?_eq_none_iff {name : String} :
    ofName? name = none ↔ name ∉ ["primary", "secondary", "unconfigured"] := by
  grind [ofName?]

/-- **The role in a text.** -/
theorem ofText_eq_ok_iff {text : String} {r : Role} : ofText text = .ok r ↔ Names text r := by
  simp only [Names, normal_iff, ofText]
  by_cases hempty : normalize text = ""
  · have hname : "" ≠ r.name := by cases r <;> decide
    simp [hempty, hname, eq_comm]
  · rw [if_neg hempty, or_iff_left fun h => hempty h.1, ← ofName?_eq_some_iff]
    cases ofName? (normalize text) <;> simp

/-- **A text without a role** is told in its normal form. -/
theorem ofText_eq_error_iff {text name : String} :
    ofText text = .error name ↔ Unknown text name := by
  have hnames : name ∉ ["", "primary", "secondary", "unconfigured"] ↔
      name ≠ "" ∧ ofName? name = none := by
    rw [ofName?_eq_none_iff, List.mem_cons, not_or]
  simp only [Unknown, normal_iff, hnames, ofText]
  by_cases hempty : normalize text = ""
  · rw [if_pos hempty]
    refine iff_of_false (by simp) ?_
    rintro ⟨rfl, hne, -⟩
    exact hne hempty
  · rw [if_neg hempty]
    cases h : ofName? (normalize text) with
    | some r =>
      refine iff_of_false (by simp) ?_
      rintro ⟨rfl, -, hnone⟩
      rw [h] at hnone
      cases hnone
    | none =>
      simp only [Except.error.injEq]
      constructor
      · rintro rfl
        exact ⟨rfl, hempty, h⟩
      · rintro ⟨rfl, -⟩
        rfl

end Role

namespace Config

variable {lookup : String → Option String} {c c' : Config} {name : String}

/-! ## Overrides -/

/-- **What the overrides make of a configuration**: the values of the look-up where it has any, a
blank address being none, and nothing else. -/
structure Overridden (lookup : String → Option String) (c c' : Config) : Prop where
  role : ∀ text, lookup roleVariable = some text → Role.Names text c'.node.role
  role_kept : lookup roleVariable = none → c'.node.role = c.node.role
  primaryUrl : ∀ url, lookup primaryUrlVariable = some url →
    ∃ t, Text.Trimmed url t ∧ c'.node.primaryUrl? = if t = "" then none else some t
  primaryUrl_kept : lookup primaryUrlVariable = none → c'.node.primaryUrl? = c.node.primaryUrl?
  http : c'.http = c.http
  registry : c'.registry = c.registry
  features : c'.features = c.features

theorem Overridden.again (h : Overridden lookup c c') : Overridden lookup c' c' where
  role := h.role
  role_kept := fun _ => rfl
  primaryUrl := h.primaryUrl
  primaryUrl_kept := fun _ => rfl
  http := rfl
  registry := rfl
  features := rfl

/-! ## The two steps -/

theorem run_overrideRole (text : String) (c : Config) :
    (overrideRole text).run c =
      match Role.ofText text with
      | .ok role => .ok () { c with node := { c.node with role } }
      | .error name => .error name c := by
  unfold overrideRole
  cases Role.ofText text <;> rfl

theorem trimmedUrl?_eq_iff {url : String} {url? : Option String} :
    trimmedUrl? url = url? ↔ ∃ t, Text.Trimmed url t ∧ url? = if t = "" then none else some t := by
  simp only [trimmedUrl?, ← Text.trim_eq_iff, exists_eq_left']
  exact eq_comm

/-- The address that the look-up gives, or else the one there is. -/
def urlFrom (lookup : String → Option String) (c : Config) : Option String :=
  ((lookup primaryUrlVariable).map trimmedUrl?).getD c.node.primaryUrl?

theorem run_forM_overridePrimaryUrl (lookup : String → Option String) (c : Config) :
    ((lookup primaryUrlVariable).forM overridePrimaryUrl).run c =
      .ok () { c with node := { c.node with primaryUrl? := urlFrom lookup c } } := by
  unfold urlFrom
  cases lookup primaryUrlVariable <;> rfl

theorem run_applyOverrides_of_none (h : lookup roleVariable = none) (c : Config) :
    (applyOverrides lookup).run c =
      .ok () { c with node := ⟨c.node.role, urlFrom lookup c⟩ } := by
  rw [applyOverrides, h]
  exact run_forM_overridePrimaryUrl lookup c

theorem run_applyOverrides_of_some {text : String} (h : lookup roleVariable = some text)
    (c : Config) :
    (applyOverrides lookup).run c =
      match Role.ofText text with
      | .ok role => .ok () { c with node := ⟨role, urlFrom lookup c⟩ }
      | .error name => .error name c := by
  simp only [applyOverrides, h, EStateM.run_bind, Option.forM, run_overrideRole]
  cases Role.ofText text with
  | ok role => exact run_forM_overridePrimaryUrl lookup _
  -- the address is not even looked at
  | error name => rfl

/-! ## The two outcomes -/

/-- **The overrides fail** just for a role that is none, and leave the configuration as it was. -/
theorem run_applyOverrides_eq_error_iff :
    (applyOverrides lookup).run c = .error name c' ↔
      c' = c ∧ ∃ text, lookup roleVariable = some text ∧ Role.Unknown text name := by
  cases h : lookup roleVariable with
  | none => simp [run_applyOverrides_of_none h]
  | some text =>
    rw [run_applyOverrides_of_some h]
    simp only [Option.some.injEq, exists_eq_left', ← Role.ofText_eq_error_iff]
    cases Role.ofText text <;> simp [and_comm, eq_comm]

theorem urlFrom_eq_iff {url? : Option String} :
    urlFrom lookup c = url? ↔
      (∀ url, lookup primaryUrlVariable = some url →
        ∃ t, Text.Trimmed url t ∧ url? = if t = "" then none else some t) ∧
      (lookup primaryUrlVariable = none → url? = c.node.primaryUrl?) := by
  unfold urlFrom
  cases lookup primaryUrlVariable with
  | none => simp [eq_comm]
  | some url => simpa using trimmedUrl?_eq_iff

theorem overridden_iff :
    Overridden lookup c c' ↔
      ((∀ text, lookup roleVariable = some text → Role.ofText text = .ok c'.node.role) ∧
        (lookup roleVariable = none → c'.node.role = c.node.role)) ∧
      c' = { c with node := ⟨c'.node.role, urlFrom lookup c⟩ } := by
  simp only [Role.ofText_eq_ok_iff]
  constructor
  · intro h
    refine ⟨⟨h.role, h.role_kept⟩, ?_⟩
    rw [urlFrom_eq_iff.2 ⟨h.primaryUrl, h.primaryUrl_kept⟩, ← h.http, ← h.registry, ← h.features]
  · rintro ⟨⟨hrole, hkept⟩, hc⟩
    have hurl := urlFrom_eq_iff.1 (congrArg (fun c => c.node.primaryUrl?) hc.symm)
    exact ⟨hrole, hkept, hurl.1, hurl.2, by rw [hc], by rw [hc], by rw [hc]⟩

/-- **Otherwise they set** what the look-up has. -/
theorem run_applyOverrides_eq_ok_iff :
    (applyOverrides lookup).run c = .ok () c' ↔ Overridden lookup c c' := by
  rw [overridden_iff]
  cases h : lookup roleVariable with
  | none =>
    rw [run_applyOverrides_of_none h]
    simp only [EStateM.Result.ok.injEq, true_and, reduceCtorEq, false_implies, implies_true,
      forall_const]
    constructor
    · rintro rfl
      exact ⟨rfl, rfl⟩
    · rintro ⟨hrole, hc⟩
      rw [hc, hrole]
  | some text =>
    rw [run_applyOverrides_of_some h]
    simp only [Option.some.injEq, forall_eq', reduceCtorEq, false_implies, and_true]
    cases hrole : Role.ofText text with
    | error name => simp
    | ok role =>
      simp only [EStateM.Result.ok.injEq, true_and, Except.ok.injEq]
      constructor
      · rintro rfl
        exact ⟨rfl, rfl⟩
      · rintro ⟨hrole, hc⟩
        rw [hc, hrole]

/-- **Overriding twice** is overriding once. -/
theorem applyOverrides_twice (lookup : String → Option String) :
    (do applyOverrides lookup; applyOverrides lookup) = applyOverrides lookup := by
  funext c
  show (applyOverrides lookup >>= fun _ => applyOverrides lookup).run c =
    (applyOverrides lookup).run c
  rw [EStateM.run_bind]
  cases h : (applyOverrides lookup).run c with
  | ok _ c' => exact run_applyOverrides_eq_ok_iff.2 (run_applyOverrides_eq_ok_iff.1 h).again
  | error name c' => rfl

/-! ## Loading -/

/-- **The configuration that a file gives**: the one its text describes, or the default one if there
is no file. -/
inductive FileGives (d : Disk) (path : String) : Config → Prop
  | absent (h : d.pathExists path = false) : FileGives d path {}
  | read {source : String} {c : Config} (hexists : d.pathExists path = true)
      (htext : d.readText path = .ok source) (h : parse source = .ok c) : FileGives d path c

/-- **Why a file gives none**: it cannot be read, or its text describes none. -/
inductive FileFails (d : Disk) (path : String) : LoadError → Prop
  | unreadable {e : IoError} (hexists : d.pathExists path = true)
      (h : d.readText path = .error e) : FileFails d path (.read path e)
  | unfit {source : String} {e : ParseError} (hexists : d.pathExists path = true)
      (htext : d.readText path = .ok source) (h : parse source = .error e) :
      FileFails d path (.parse e)

variable {d : Disk} {path : String} {e : LoadError}

theorem ofFile_eq_ok_iff : ofFile d path = .ok c ↔ FileGives d path c := by
  constructor
  · intro h
    unfold ofFile at h
    split at h
    case isFalse hexists =>
      cases h
      exact .absent (Bool.not_eq_true _ ▸ hexists)
    case isTrue hexists =>
      split at h
      case h_1 => cases h
      case h_2 source htext => exact .read hexists htext (mapError_eq_ok.1 h)
  · rintro (hexists | ⟨hexists, htext, h⟩)
    · simp [ofFile, hexists]
    · simp [ofFile, hexists, htext, mapError_eq_ok, h]

theorem ofFile_eq_error_iff : ofFile d path = .error e ↔ FileFails d path e := by
  constructor
  · intro h
    unfold ofFile at h
    split at h
    case isFalse hexists => cases h
    case isTrue hexists =>
      split at h
      case h_1 cause htext =>
        cases h
        exact .unreadable hexists htext
      case h_2 source htext =>
        obtain ⟨cause, hparse, rfl⟩ := mapError_eq_error.1 h
        exact .unfit hexists htext hparse
  · rintro (⟨hexists, h⟩ | ⟨hexists, htext, h⟩)
    · simp [ofFile, hexists, h]
    · simp [ofFile, hexists, htext, mapError_eq_error, h]

theorem override_eq_ok_iff :
    c.override lookup = .ok c' ↔ (applyOverrides lookup).run c = .ok () c' := by
  unfold override
  cases (applyOverrides lookup).run c <;> simp

theorem override_eq_error_iff :
    c.override lookup = .error name ↔ (applyOverrides lookup).run c = .error name c := by
  unfold override
  cases h : (applyOverrides lookup).run c with
  | ok _ c' => simp
  | error name' c' =>
    obtain ⟨rfl, -⟩ := run_applyOverrides_eq_error_iff.1 h
    simp

/-- **A configuration is loaded** if the file gives one and the overrides succeed on it. -/
theorem load_eq_ok_iff :
    load d path lookup = .ok c' ↔
      ∃ c, FileGives d path c ∧ (applyOverrides lookup).run c = .ok () c' := by
  simp only [← ofFile_eq_ok_iff, load]
  cases ofFile d path with
  | error e => simp
  | ok c => simp [mapError_eq_ok, override_eq_ok_iff]

/-- **Otherwise** the file fails, or the role of the environment is none. -/
theorem load_eq_error_iff :
    load d path lookup = .error e ↔ FileFails d path e ∨
      ∃ c name, FileGives d path c ∧ (applyOverrides lookup).run c = .error name c ∧
        e = .unknownRole name := by
  simp only [← ofFile_eq_ok_iff, ← ofFile_eq_error_iff, load]
  cases ofFile d path with
  | error e' => simp
  | ok c =>
    simp only [mapError_eq_error, override_eq_error_iff]
    simp [eq_comm]

/-! ## The law -/

/-- **Overrides count for all or for nothing.** They fail just for a text that, trimmed and with
small letters, is not empty and no role; the error tells that text, and the configuration is what it
was, whatever address there is. Otherwise the role and the address are those of the look-up where it
has any, and nothing else changes. A second time they change nothing. A configuration is loaded by
overriding the one in the file, or the default one if there is no file. -/
theorem overrides_all_or_nothing (lookup : String → Option String) :
    (∀ c c' name, (applyOverrides lookup).run c = .error name c' ↔
      c' = c ∧ ∃ text, lookup roleVariable = some text ∧ Role.Unknown text name) ∧
    (∀ c c', (applyOverrides lookup).run c = .ok () c' ↔ Overridden lookup c c') ∧
    (do applyOverrides lookup; applyOverrides lookup) = applyOverrides lookup ∧
    (∀ d path c', load d path lookup = .ok c' ↔
      ∃ c, FileGives d path c ∧ (applyOverrides lookup).run c = .ok () c') ∧
    ∀ d path e, load d path lookup = .error e ↔ FileFails d path e ∨
      ∃ c name, FileGives d path c ∧ (applyOverrides lookup).run c = .error name c ∧
        e = .unknownRole name :=
  ⟨fun _ _ _ => run_applyOverrides_eq_error_iff, fun _ _ => run_applyOverrides_eq_ok_iff,
    applyOverrides_twice lookup, fun _ _ _ => load_eq_ok_iff, fun _ _ _ => load_eq_error_iff⟩

end Config

end Replica
