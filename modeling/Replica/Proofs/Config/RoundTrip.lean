import Replica.Proofs.Config.Integers
import Replica.Proofs.Toml.Documents

/-!
# A configuration survives being written and read

* `sections_eq`, `render_eq_ok_iff`: the fields of the sections, and the configurations that can be
  written;
* `nodeSection_fields`, `httpSection_fields`, `registrySection_fields`, `featureTable_fields`,
  `ofEntries_sections`: the fields give each section again, and the sections the configuration;
* **`Config.parse_render`**: a configuration can be written if its numbers fit into a document, and
  is then read as it was; so is every configuration that was read before.
-/

namespace Replica

open Toml (Plain Value writtenTable)

/-! ## Writing -/

/-- The fields of a section as they are written. -/
def NodeConfig.fields (c : NodeConfig) : List (String × Plain) :=
  [("role", .text c.role.name)] ++ (c.primaryUrl?.map fun u => ("primary_url", .text u)).toList

/-- The limit for a whole request is left out where there is none. -/
def HttpConfig.fields (c : HttpConfig) : List (String × Plain) :=
  [("connect_timeout_secs", .number c.connectTimeoutSecs)] ++
    (c.timeoutSecs?.map fun n => ("timeout_secs", .number n)).toList ++
    [("max_redirects", .number c.maxRedirects)]

/-- The one field of this section is always written. -/
def RegistryConfig.fields (c : RegistryConfig) : List (String × Plain) :=
  [("delete_tags_service_timeout_secs", .number c.deleteTagsTimeoutSecs)]

/-- The flags in the order of their names. -/
def Flags.fields (flags : Flags) : List (String × Plain) :=
  flags.entries.map fun e => (e.1, .flag e.2)

theorem HttpConfig.inRange_fields_iff {c : HttpConfig} :
    (∀ e ∈ c.fields, e.2.InRange) ↔ c.InRange := by
  obtain ⟨connect, timeout?, redirects⟩ := c
  constructor
  · intro h
    refine ⟨h ("connect_timeout_secs", .number connect) (by simp [HttpConfig.fields]), ?_,
      h ("max_redirects", .number redirects) (by simp [HttpConfig.fields])⟩
    rintro n rfl
    exact h ("timeout_secs", .number n) (by simp [HttpConfig.fields])
  · intro h
    have hconnect := h.connectTimeout
    have htimeout := h.timeout
    have hredirects := h.maxRedirects
    cases timeout? with
    | none => simpa [HttpConfig.fields, Plain.InRange] using ⟨hconnect, hredirects⟩
    | some n =>
      simpa [HttpConfig.fields, Plain.InRange] using ⟨hconnect, htimeout n rfl, hredirects⟩

namespace Config

theorem sections_eq (c : Config) :
    c.sections = [("node", c.node.fields), ("http", c.http.fields),
      ("registry", c.registry.fields), ("features", Flags.fields c.features)] := rfl

theorem inRange_sections_iff {c : Config} :
    (∀ s ∈ c.sections, ∀ e ∈ s.2, e.2.InRange) ↔ c.InRange := by
  have hnode : ∀ e ∈ c.node.fields, e.2.InRange := by
    cases c.node.primaryUrl? <;> simp [NodeConfig.fields, Plain.InRange, *]
  have hflags : ∀ e ∈ Flags.fields c.features, e.2.InRange := by
    intro e he
    obtain ⟨f, -, rfl⟩ := List.mem_map.1 he
    trivial
  have hregistry : (∀ e ∈ c.registry.fields, e.2.InRange) ↔
      c.registry.deleteTagsTimeoutSecs ≤ Toml.maxInteger := by
    simp [RegistryConfig.fields, Plain.InRange]
  rw [sections_eq]
  simp only [List.forall_mem_cons, List.not_mem_nil, false_implies, implies_true, and_true]
  constructor
  · rintro ⟨-, hhttp, hreg, -⟩
    exact ⟨HttpConfig.inRange_fields_iff.1 hhttp, hregistry.1 hreg⟩
  · intro h
    exact ⟨hnode, HttpConfig.inRange_fields_iff.2 h.http, hregistry.2 h.deleteTagsTimeout, hflags⟩

theorem isWritable_iff {p : Plain} : isWritable p = true ↔ p.InRange := by
  cases p <;> simp [isWritable, Plain.InRange]

/-- **The configurations that can be written**, and the text of one. -/
theorem render_eq_ok_iff {c : Config} {t : String} :
    c.render = .ok t ↔ c.InRange ∧ Toml.document c.sections = t := by
  have hall : (c.sections.all fun s => s.2.all fun e => isWritable e.2) = true ↔ c.InRange := by
    rw [← inRange_sections_iff]
    simp only [List.all_eq_true, isWritable_iff]
  unfold render
  split
  · rename_i h
    simp [hall.1 h]
  · rename_i h
    simp [mt hall.2 h]

/-! ## Reading what was written -/

theorem nodeSection_fields (c : NodeConfig) : nodeSection (writtenTable c.fields) = .ok c := by
  obtain ⟨role, primaryUrl?⟩ := c
  have hrole : Replica.role (.string role.name) = .ok role := by
    rw [Replica.role, roleNamed, Role.ofName?_name]
  cases primaryUrl? with
  | none =>
    simp [nodeSection, sectionOf, writtenTable, NodeConfig.fields, setFields, NodeConfig.field,
      NodeConfig.setRole, Plain.value, hrole, Except.bind, bind, pure, Except.pure]
  | some url =>
    simp [nodeSection, sectionOf, writtenTable, NodeConfig.fields, setFields, NodeConfig.field,
      NodeConfig.setRole, NodeConfig.setPrimaryUrl, textValue, Plain.value, hrole, Except.bind,
      bind, pure, Except.pure]

theorem httpSection_fields (c : HttpConfig) : httpSection (writtenTable c.fields) = .ok c := by
  obtain ⟨connect, timeout?, redirects⟩ := c
  cases timeout? with
  | none =>
    simp [httpSection, sectionOf, writtenTable, HttpConfig.fields, setFields, HttpConfig.field,
      HttpConfig.setConnectTimeout, HttpConfig.setMaxRedirects, unsigned_natCast, Plain.value,
      Except.bind, bind, pure, Except.pure]
  | some n =>
    simp [httpSection, sectionOf, writtenTable, HttpConfig.fields, setFields, HttpConfig.field,
      HttpConfig.setConnectTimeout, HttpConfig.setTimeout, HttpConfig.setMaxRedirects,
      unsigned_natCast, Plain.value, Except.bind, bind, pure, Except.pure]

theorem registrySection_fields (c : RegistryConfig) :
    registrySection (writtenTable c.fields) = .ok c := by
  simp [registrySection, sectionOf, writtenTable, RegistryConfig.fields, setFields,
    RegistryConfig.field, RegistryConfig.setDeleteTagsTimeout, unsigned_natCast, Plain.value,
    Except.bind, bind, pure, Except.pure]

theorem featureTable_fields (flags : Flags) :
    featureTable (writtenTable flags.fields) = .ok flags := by
  have hpairs : ∀ entries : List (String × Bool),
      ((entries.map fun e => (e.1, Plain.flag e.2)).map fun e => (e.1, e.2.value)).mapM
        (fun e => do return (e.1, ← boolean e.2)) = (.ok entries : Except SchemaError _) := by
    intro entries
    induction entries with
    | nil => rfl
    | cons e entries ih =>
      rw [List.map_cons, List.map_cons, List.mapM_cons, ih]
      rfl
  rw [writtenTable, featureTable, Flags.fields, hpairs]
  exact congrArg Except.ok (Dict.ofList_entries flags)

/-- **The sections give the configuration again.** -/
theorem ofEntries_sections (c : Config) :
    ofEntries (c.sections.map fun s => (s.1, writtenTable s.2)) = .ok c := by
  obtain ⟨node, http, registry, features⟩ := c
  simp [sections_eq, ofEntries, setFields, field, setNode, setHttp, setRegistry, setFeatures,
    nodeSection_fields, httpSection_fields, registrySection_fields, featureTable_fields,
    Except.bind, bind, pure, Except.pure]

theorem nodup_sections (c : Config) : (c.sections.map Prod.fst).Nodup := by
  show ["node", "http", "registry", "features"].Nodup
  decide

theorem nodup_fields (c : Config) : ∀ s ∈ c.sections, (s.2.map Prod.fst).Nodup := by
  have hnode : (c.node.fields.map Prod.fst).Nodup := by
    cases h : c.node.primaryUrl? <;> simp [NodeConfig.fields, h]
  have hhttp : (c.http.fields.map Prod.fst).Nodup := by
    cases h : c.http.timeoutSecs? <;> simp [HttpConfig.fields, h]
  have hregistry : (c.registry.fields.map Prod.fst).Nodup := by
    simp [RegistryConfig.fields]
  have hflags : ((Flags.fields c.features).map Prod.fst).Nodup := by
    have hne : c.features.entries.Pairwise fun a b => a.1 ≠ b.1 := by
      refine c.features.sorted.imp fun {a b} h e => ?_
      rw [e] at h
      exact String.lt_irrefl _ h
    rw [Flags.fields, List.map_map]
    exact List.pairwise_map.2 hne
  rw [sections_eq]
  simp only [List.forall_mem_cons, List.not_mem_nil, false_implies, implies_true, and_true]
  exact ⟨hnode, hhttp, hregistry, hflags⟩

theorem parse_of_render {c : Config} {t : String} (h : c.render = .ok t) : parse t = .ok c := by
  obtain ⟨hin, rfl⟩ := render_eq_ok_iff.1 h
  rw [parse, Toml.read_document (nodup_sections c) (nodup_fields c) (inRange_sections_iff.2 hin)]
  exact congrArg (Except.mapError ParseError.schema) (ofEntries_sections c)

/-! ## The round trip -/

/-- **A configuration survives being written and read.** It can be written just if its numbers are
at most `2 ^ 63 - 1`, and is then read as it was. A configuration that was read can be written. -/
theorem parse_render :
    (∀ c : Config, (∃ t, c.render = .ok t) ↔
      c.http.connectTimeoutSecs ≤ Toml.maxInteger ∧
        (∀ n, c.http.timeoutSecs? = some n → n ≤ Toml.maxInteger) ∧
        c.http.maxRedirects ≤ Toml.maxInteger ∧
        c.registry.deleteTagsTimeoutSecs ≤ Toml.maxInteger) ∧
    (∀ (c : Config) (t : String), c.render = .ok t → parse t = .ok c) ∧
    ∀ (source : String) (c : Config), parse source = .ok c →
      ∃ t, c.render = .ok t ∧ parse t = .ok c := by
  refine ⟨fun c => ⟨?_, ?_⟩, fun c t => parse_of_render, fun source c h => ?_⟩
  · rintro ⟨t, ht⟩
    obtain ⟨hin, -⟩ := render_eq_ok_iff.1 ht
    exact ⟨hin.http.connectTimeout, hin.http.timeout, hin.http.maxRedirects, hin.deleteTagsTimeout⟩
  · rintro ⟨hconnect, htimeout, hredirects, hdelete⟩
    exact ⟨_, render_eq_ok_iff.2 ⟨⟨⟨hconnect, htimeout, hredirects⟩, hdelete⟩, rfl⟩⟩
  · have ht := render_eq_ok_iff.2 ⟨inRange_of_parse h, rfl⟩
    exact ⟨_, ht, parse_of_render ht⟩

/-- Names without a character, with a dot, and with quotes and controls. -/
theorem parse_render_odd_names :
    let c : Config := {
      node := { role := .secondary, primaryUrl? := some "'''\"\"\"\\\n" },
      http := { timeoutSecs? := some Toml.maxInteger },
      features := Dict.ofList [("", true), ("a.b", false), ("\"'\n\x7f", true)] }
    c.render = .ok (Toml.document c.sections) ∧ parse (Toml.document c.sections) = .ok c := by
  intro c
  have h : c.render = .ok (Toml.document c.sections) := render_eq_ok_iff.2
    ⟨⟨⟨by decide, by simp [c], by decide⟩, by decide⟩, rfl⟩
  exact ⟨h, parse_render.2.1 c _ h⟩

end Config

end Replica
