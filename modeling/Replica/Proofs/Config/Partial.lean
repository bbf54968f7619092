import Replica.Config.Text
import Replica.Proofs.Config.Sections
import Replica.Proofs.Toml.Documents

/-!
# What a document says about a configuration

A document says as much as it likes: every field takes the value under its key, or its default, and
what the schema does not know is passed over.

* `given?`: what a document has under a key of a section;
* `WritesRole`, `IsText`, `IsNumber`, `IsFlag`: what the values say;
* **`Config.Describes`**: a document describes a configuration, field by field;
* `ofEntries_eq_ok_iff`: the configuration that is read is the one described;
* `Config.Misfits`: a value is of another kind than its field;
* `Describes.congr`, `Misfits.not_describes`: keys that the schema does not know, and such values;
* **`partial_document`**: the configuration that is read, and the documents that do not fit.
-/

namespace Replica

open Toml (Value)
open Dict (lookup)

/-! ## What values say -/

/-- A role is written as its name, or as the only key of a table that holds nothing under it. -/
inductive WritesRole : Value → Role → Prop
  | name (r : Role) : WritesRole (.string r.name) r
  | emptyTable (r : Role) : WritesRole (.table [(r.name, .table [])]) r
  | emptyArray (r : Role) (ofTables : Bool) : WritesRole (.table [(r.name, .array ofTables [])]) r

/-- The value is this string. -/
def IsText (v : Value) (s : String) : Prop := v = .string s

/-- The value is this number. -/
def IsNumber (v : Value) (n : Nat) : Prop := v = .integer n

/-- The value is this flag. -/
def IsFlag (v : Value) (b : Bool) : Prop := v = .boolean b

/-- A value says what an optional field is to be, and that it is to be there. -/
def Sets {β : Type} (means : Value → β → Prop) (v : Value) (b? : Option β) : Prop :=
  ∃ b, means v b ∧ b? = some b

theorem roleNamed_eq_ok_iff {name : String} {r : Role} :
    roleNamed name = .ok r ↔ name = r.name := by
  constructor
  · intro h
    unfold roleNamed at h
    split at h
    · rename_i hname
      cases h
      exact Role.ofName?_eq_some_iff.1 hname
    · cases h
  · rintro rfl
    rw [roleNamed, Role.ofName?_name]

theorem reads_role : Reads role = WritesRole := by
  funext v r
  refine propext ⟨fun h => ?_, ?_⟩
  · unfold Reads role at h
    split at h
    · rw [roleNamed_eq_ok_iff.1 h]
      exact .name r
    · cases h
    · obtain ⟨r', hr, h⟩ := bind_eq_ok.1 h
      obtain ⟨_, hcontent, h⟩ := bind_eq_ok.1 h
      cases h
      rw [roleNamed_eq_ok_iff.1 hr]
      unfold roleContent at hcontent
      split at hcontent
      · exact .emptyTable _
      · cases hcontent
      · exact .emptyArray _ _
      · cases hcontent
      · cases hcontent
      · cases hcontent
    · cases h
    · cases h
  · intro h
    have hname : roleNamed r.name = .ok r := roleNamed_eq_ok_iff.2 rfl
    cases h with
    | name => exact hname
    | emptyTable => exact bind_eq_ok.2 ⟨r, hname, rfl⟩
    | emptyArray _ ofTables => cases ofTables <;> exact bind_eq_ok.2 ⟨r, hname, rfl⟩

theorem reads_unsigned (wanted : Wanted) : Reads (unsigned wanted) = IsNumber := by
  funext v n
  refine propext ⟨fun h => ?_, ?_⟩
  · unfold Reads unsigned at h
    split at h
    · split at h
      · cases h
        exact congrArg Value.integer (Int.toNat_of_nonneg ‹_›).symm
      · cases h
    · cases h
  · rintro rfl
    exact unsigned_natCast wanted n

theorem reads_textValue : Reads textValue = IsText := by
  funext v s
  cases v <;> simp [Reads, IsText, textValue]

theorem reads_boolean : Reads boolean = IsFlag := by
  funext v b
  cases v <;> simp [Reads, IsFlag, boolean]

theorem reads_some {β : Type} (read : Value → Except SchemaError β) :
    (Reads fun v => do return some (← read v)) = Sets (Reads read) := by
  funext v b?
  exact propext return_eq_ok

/-! ## Documents -/

/-- What a document has under a key of a section that is a table. -/
def given? (entries : List (String × Value)) (name key : String) : Option Value :=
  match lookup name entries with
  | some (.table es) => lookup key es
  | _ => none

/-- The sections that a document has are tables. -/
def HasTables (entries : List (String × Value)) : Prop :=
  ∀ name ∈ ["node", "http", "registry", "features"], ∀ v, (name, v) ∈ entries → ∃ es, v = .table es

/-- No key comes twice, neither in the document nor in a table in it. -/
def KeysOnce (entries : List (String × Value)) : Prop :=
  (entries.map Prod.fst).Nodup ∧ ∀ name es, (name, .table es) ∈ entries → (es.map Prod.fst).Nodup

theorem Parts.Lawful.takes_section {σ ι : Type} {p : Parts σ ι}
    {field : String → Option (Setter σ)} (h : p.Lawful field)
    {read : Value → Except SchemaError σ} {initial s : σ}
    (hread : ∀ es, read (.table es) = setFields field initial es)
    {entries : List (String × Value)} (hkeys : KeysOnce entries) (htables : HasTables entries)
    {name : String} (hname : name ∈ ["node", "http", "registry", "features"]) :
    Takes (Reads read) (lookup name entries) initial s ↔
      ∀ i, Takes (Reads (p.read i)) (given? entries name (p.key i)) (p.get i initial)
        (p.get i s) := by
  unfold given?
  cases hv : lookup name entries with
  | none =>
    simp only [takes_none]
    exact ⟨fun hs i => hs ▸ rfl, fun hs => h.ext s initial hs⟩
  | some v =>
    have hmem := Dict.mem_of_lookup hv
    obtain ⟨es, rfl⟩ := htables name hname v hmem
    rw [takes_some, Reads, hread]
    exact h.setFields_eq_ok_iff (hkeys.2 name es hmem)

namespace Config

/-- **A document describes a configuration**: each field is what the document says, or its default
if the document says nothing about it. -/
structure Describes (entries : List (String × Value)) (c : Config) : Prop where
  role : Takes WritesRole (given? entries "node" "role") .unconfigured c.node.role
  primaryUrl : Takes (Sets IsText) (given? entries "node" "primary_url") none c.node.primaryUrl?
  connectTimeout :
    Takes IsNumber (given? entries "http" "connect_timeout_secs") 30 c.http.connectTimeoutSecs
  timeout : Takes (Sets IsNumber) (given? entries "http" "timeout_secs") none c.http.timeoutSecs?
  maxRedirects : Takes IsNumber (given? entries "http" "max_redirects") 10 c.http.maxRedirects
  deleteTagsTimeout :
    Takes IsNumber (given? entries "registry" "delete_tags_service_timeout_secs") 250
      c.registry.deleteTagsTimeoutSecs
  features : ∀ name,
    Takes (Sets IsFlag) (given? entries "features" name) none (c.features.get? name)

variable {entries : List (String × Value)} {c : Config}

section

variable (hkeys : KeysOnce entries) (htables : HasTables entries)

include hkeys htables

theorem takes_node_iff {node : NodeConfig} :
    Takes (Reads nodeSection) (lookup "node" entries) {} node ↔
      Takes WritesRole (given? entries "node" "role") .unconfigured node.role ∧
      Takes (Sets IsText) (given? entries "node" "primary_url") none node.primaryUrl? := by
  refine (NodeConfig.lawful_parts.takes_section (fun _ => rfl) hkeys htables (by simp)).trans ?_
  rw [← reads_role, ← reads_textValue, ← reads_some]
  refine ⟨fun h => ⟨h .role, h .primaryUrl⟩, ?_⟩
  rintro ⟨hrole, hurl⟩ (_ | _)
  · exact hrole
  · exact hurl

theorem takes_http_iff {http : HttpConfig} :
    Takes (Reads httpSection) (lookup "http" entries) {} http ↔
      Takes IsNumber (given? entries "http" "connect_timeout_secs") 30 http.connectTimeoutSecs ∧
      Takes (Sets IsNumber) (given? entries "http" "timeout_secs") none http.timeoutSecs? ∧
      Takes IsNumber (given? entries "http" "max_redirects") 10 http.maxRedirects := by
  refine (HttpConfig.lawful_parts.takes_section (fun _ => rfl) hkeys htables (by simp)).trans ?_
  have hsets := reads_some (unsigned .unsigned)
  rw [reads_unsigned] at hsets
  constructor
  · intro h
    exact ⟨reads_unsigned .unsigned ▸ h .connectTimeout, hsets ▸ h .timeout,
      reads_unsigned .size ▸ h .maxRedirects⟩
  · rintro ⟨hconnect, htimeout, hredirects⟩ (_ | _ | _)
    · exact reads_unsigned .unsigned ▸ hconnect
    · exact hsets ▸ htimeout
    · exact reads_unsigned .size ▸ hredirects

theorem takes_registry_iff {registry : RegistryConfig} :
    Takes (Reads registrySection) (lookup "registry" entries) {} registry ↔
      Takes IsNumber (given? entries "registry" "delete_tags_service_timeout_secs") 250
        registry.deleteTagsTimeoutSecs := by
  refine (RegistryConfig.lawful_parts.takes_section (fun _ => rfl) hkeys htables
    (by simp)).trans ?_
  rw [← reads_unsigned .unsigned]
  exact ⟨fun h => h (), fun h _ => h⟩

theorem takes_features_iff {features : Flags} :
    Takes (Reads featureTable) (lookup "features" entries) Dict.empty features ↔
      ∀ name, Takes (Sets IsFlag) (given? entries "features" name) none (features.get? name) := by
  rw [← reads_boolean, ← reads_some]
  exact Flags.lawful_parts.takes_section featureTable_table hkeys htables (by simp)

/-- **The configuration that is read** is the one that the document describes. -/
theorem ofEntries_eq_ok_iff : ofEntries entries = .ok c ↔ Describes entries c := by
  refine (lawful_parts.setFields_eq_ok_iff hkeys.1).trans ⟨fun h => ?_, ?_⟩
  · obtain ⟨hrole, hurl⟩ := (takes_node_iff hkeys htables).1 (h .node)
    obtain ⟨hconnect, htimeout, hredirects⟩ := (takes_http_iff hkeys htables).1 (h .http)
    exact ⟨hrole, hurl, hconnect, htimeout, hredirects,
      (takes_registry_iff hkeys htables).1 (h .registry),
      (takes_features_iff hkeys htables).1 (h .features)⟩
  · rintro h (_ | _ | _ | _)
    · exact (takes_node_iff hkeys htables).2 ⟨h.role, h.primaryUrl⟩
    · exact (takes_http_iff hkeys htables).2 ⟨h.connectTimeout, h.timeout, h.maxRedirects⟩
    · exact (takes_registry_iff hkeys htables).2 h.deleteTagsTimeout
    · exact (takes_features_iff hkeys htables).2 h.features

end

/-! ## What the schema knows -/

/-- The fields that are numbers. -/
def numberKeys : List (String × String) :=
  [("http", "connect_timeout_secs"), ("http", "timeout_secs"), ("http", "max_redirects"),
    ("registry", "delete_tags_service_timeout_secs")]

/-- The schema knows this key of this section. All keys among the flags are known. -/
def IsKnown (name key : String) : Prop :=
  (name, key) ∈ ("node", "role") :: ("node", "primary_url") :: numberKeys ∨ name = "features"

/-- **Two documents with the same known keys** describe the same configuration. -/
theorem Describes.congr {entries' : List (String × Value)}
    (hsame : ∀ name key, IsKnown name key → given? entries' name key = given? entries name key)
    (h : Describes entries c) : Describes entries' c where
  role := hsame "node" "role" (.inl (by simp)) ▸ h.role
  primaryUrl := hsame "node" "primary_url" (.inl (by simp)) ▸ h.primaryUrl
  connectTimeout :=
    hsame "http" "connect_timeout_secs" (.inl (by simp [numberKeys])) ▸ h.connectTimeout
  timeout := hsame "http" "timeout_secs" (.inl (by simp [numberKeys])) ▸ h.timeout
  maxRedirects := hsame "http" "max_redirects" (.inl (by simp [numberKeys])) ▸ h.maxRedirects
  deleteTagsTimeout :=
    hsame "registry" "delete_tags_service_timeout_secs" (.inl (by simp [numberKeys])) ▸
      h.deleteTagsTimeout
  features := fun name => hsame "features" name (.inr rfl) ▸ h.features name

/-- **A value is of another kind than its field**: something that is no number, or a negative one,
where a number is to be, or what is no text or no flag where these are to be. -/
inductive Misfits (entries : List (String × Value)) : Prop
  | number {name key : String} {v : Value} (hkey : (name, key) ∈ numberKeys)
      (hv : given? entries name key = some v) (h : ∀ n : Nat, v ≠ .integer n) : Misfits entries
  | text {v : Value} (hv : given? entries "node" "primary_url" = some v)
      (h : ∀ s, v ≠ .string s) : Misfits entries
  | flag {name : String} {v : Value} (hv : given? entries "features" name = some v)
      (h : ∀ b, v ≠ .boolean b) : Misfits entries

theorem Misfits.not_describes (h : Misfits entries) : ¬ Describes entries c := by
  intro hc
  cases h with
  | @number name key v hkey hv h =>
    have hnumber : ∃ n, IsNumber v n := by
      simp only [numberKeys, List.mem_cons, Prod.mk.injEq, List.not_mem_nil, or_false] at hkey
      rcases hkey with ⟨rfl, rfl⟩ | ⟨rfl, rfl⟩ | ⟨rfl, rfl⟩ | ⟨rfl, rfl⟩
      · exact ⟨_, hc.connectTimeout.1 _ hv⟩
      · obtain ⟨n, hn, -⟩ := hc.timeout.1 _ hv
        exact ⟨n, hn⟩
      · exact ⟨_, hc.maxRedirects.1 _ hv⟩
      · exact ⟨_, hc.deleteTagsTimeout.1 _ hv⟩
    obtain ⟨n, hn⟩ := hnumber
    exact h n hn
  | text hv h =>
    obtain ⟨s, hs, -⟩ := hc.primaryUrl.1 _ hv
    exact h s hs
  | flag hv h =>
    obtain ⟨b, hb, -⟩ := (hc.features _).1 _ hv
    exact h b hb

/-! ## The law -/

variable {source : String}

theorem parse_eq_ok_iff (hread : Toml.read source = some entries) :
    parse source = .ok c ↔ ofEntries entries = .ok c := by
  rw [parse, hread]
  exact mapError_eq_ok

theorem schema_of_ne_ok (hread : Toml.read source = some entries)
    (h : ∀ c, parse source ≠ .ok c) : ∃ e, parse source = .error (.schema e) := by
  cases he : ofEntries entries with
  | ok c => exact absurd ((parse_eq_ok_iff hread).2 he) (h c)
  | error e =>
    refine ⟨e, ?_⟩
    rw [parse, hread]
    exact mapError_eq_error.2 ⟨e, he, rfl⟩

/-- **A document may say as much as it likes** if its sections are tables. The configuration that is
read has in each field what the document says, or the default of the field; the keys that the schema
does not know make no difference, whatever they hold. If the document has a value of another kind
than its field, it does not fit the schema, whatever else there is. -/
theorem partial_document (hread : Toml.read source = some entries) (htables : HasTables entries) :
    (∀ c, parse source = .ok c ↔ Describes entries c) ∧
    (∀ source' entries', Toml.read source' = some entries' → HasTables entries' →
      (∀ name key, IsKnown name key → given? entries' name key = given? entries name key) →
      ∀ c, parse source' = .ok c ↔ parse source = .ok c) ∧
    (Misfits entries → ∃ e, parse source = .error (.schema e)) := by
  -- a document that is read has no key twice, so its parts can be told apart
  have hparse : ∀ source entries, Toml.read source = some entries → HasTables entries →
      ∀ c, parse source = .ok c ↔ Describes entries c := fun source entries hread htables c =>
    (parse_eq_ok_iff hread).trans (ofEntries_eq_ok_iff (Toml.nodup_of_read hread) htables)
  refine ⟨hparse source entries hread htables, ?_, fun hmisfits => ?_⟩
  · intro source' entries' hread' htables' hsame c
    rw [hparse source' entries' hread' htables', hparse source entries hread htables]
    exact ⟨fun h => h.congr fun name key hk => (hsame name key hk).symm, fun h => h.congr hsame⟩
  · exact schema_of_ne_ok hread fun c hc =>
      hmisfits.not_describes ((hparse source entries hread htables c).1 hc)

/-- Two documents with unknown keys in a section and beside it, and one with a text for a number. -/
theorem partial_document_unknown_keys :
    let source := Toml.document
      [("http", [("max_redirects", .number 3), ("proxy", .text "none")]),
        ("mirror", [("max_redirects", .number 4)])]
    let entries := [("http", Value.table [("max_redirects", .integer 3), ("proxy", .string "none")]),
      ("mirror", .table [("max_redirects", .integer 4)])]
    let source' := Toml.document [("http", [("proxy", .flag true), ("max_redirects", .number 3)])]
    let entries' := [("http", Value.table [("proxy", .boolean true), ("max_redirects", .integer 3)])]
    let unfit := Toml.document [("http", [("proxy", .flag true), ("max_redirects", .text "3")])]
    (Toml.read source = some entries ∧ HasTables entries ∧
      parse source = .ok { http := { maxRedirects := 3 } }) ∧
    (Toml.read source' = some entries' ∧ HasTables entries' ∧
      (∀ name key, IsKnown name key → given? entries' name key = given? entries name key) ∧
      ∀ c, parse source' = .ok c ↔ parse source = .ok c) ∧
    ∃ e, parse unfit = .error (.schema e) := by
  intro source entries source' entries' unfit
  have hread : Toml.read source = some entries :=
    Toml.read_document (by decide) (by decide) (by decide)
  have hread' : Toml.read source' = some entries' :=
    Toml.read_document (by decide) (by decide) (by decide)
  have hunfit : Toml.read unfit =
      some [("http", .table [("proxy", .boolean true), ("max_redirects", .string "3")])] :=
    Toml.read_document (by decide) (by decide) (by decide)
  have htables : HasTables entries := by simp [HasTables, entries]
  have htables' : HasTables entries' := by simp [HasTables, entries']
  have hsame : ∀ name key, IsKnown name key →
      given? entries' name key = given? entries name key := by
    rintro name key (hkey | rfl)
    · simp only [numberKeys, List.mem_cons, Prod.mk.injEq, List.not_mem_nil, or_false] at hkey
      rcases hkey with h | h | h | h | h | h <;>
      · obtain ⟨rfl, rfl⟩ := h
        rfl
    · rfl
  refine ⟨⟨hread, htables, ((partial_document hread htables).1 _).2 ?_⟩,
    ⟨hread', htables', hsame, (partial_document hread htables).2.1 source' entries' hread' htables'
      hsame⟩,
    (partial_document hunfit (by simp [HasTables])).2.2 ?_⟩
  · exact ⟨takes_none.2 rfl, takes_none.2 rfl, takes_none.2 rfl, takes_none.2 rfl, takes_some.2 rfl,
      takes_none.2 rfl, fun _ => takes_none.2 rfl⟩
  · exact @Misfits.number _ "http" "max_redirects" _ (by simp [numberKeys]) rfl fun n => by simp

end Config

end Replica
