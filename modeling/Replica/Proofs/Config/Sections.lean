import Replica.Config.Schema
import Replica.Proofs.Config.Integers

/-!
# Sections made of parts

A section has parts, each with a key of its own, and is read by setting one part after the other.
If no key comes twice, the order does not matter: a part is what the value of its key says, or stays
as it is if there is no such key.

* `Takes`: what a part becomes;
* `Parts`, `Parts.Lawful`: the parts of a section, none of which disturbs another one;
* **`Parts.Lawful.setFields_eq_ok_iff`**: reading a section, part by part;
* `NodeConfig.lawful_parts`, `HttpConfig.lawful_parts`, `RegistryConfig.lawful_parts`,
  `Config.lawful_parts`: the parts of the sections, and of the whole;
* `Flags.lawful_parts`, `featureTable_table`: a table of flags, each of them a part.
-/

namespace Replica

open Toml (Value)
open Dict (lookup)

/-! ## Look-ups -/

theorem Dict.lookup_eq_none {α : Type} {key : String} {entries : List (String × α)}
    (h : key ∉ entries.map Prod.fst) : lookup key entries = none := by
  induction entries with
  | nil => rfl
  | cons e entries ih =>
    rw [List.map_cons, List.mem_cons, not_or] at h
    rw [lookup, if_neg h.1, ih h.2]

theorem Dict.mem_of_lookup {α : Type} {key : String} {a : α} {entries : List (String × α)}
    (h : lookup key entries = some a) : (key, a) ∈ entries := by
  induction entries with
  | nil => cases h
  | cons e entries ih =>
    rw [lookup] at h
    split at h
    · rename_i hkey
      cases h
      exact hkey ▸ List.mem_cons_self
    · exact List.mem_cons_of_mem _ (ih h)

/-- What a part becomes: what the value says, or what it was if there is no value. -/
def Takes {β : Type} (means : Value → β → Prop) (v? : Option Value) (old new : β) : Prop :=
  (∀ v, v? = some v → means v new) ∧ (v? = none → new = old)

/-- What a value says where it is read like this. -/
def Reads {β : Type} (read : Value → Except SchemaError β) (v : Value) (b : β) : Prop :=
  read v = .ok b

section

variable {β : Type} {means : Value → β → Prop} {v : Value} {old new : β}

theorem takes_none : Takes means none old new ↔ new = old := by
  simp [Takes]

theorem takes_some : Takes means (some v) old new ↔ means v new := by
  simp [Takes]

end

/-! ## Setters -/

theorem setFields_cons {σ : Type} {field : String → Option (Setter σ)} {s s' : σ}
    {e : String × Value} {entries : List (String × Value)} :
    setFields field s (e :: entries) = .ok s' ↔
      ∃ t, (match field e.1 with
        | some set => set s e.2
        | none => .ok s) = .ok t ∧ setFields field t entries = .ok s' := by
  rw [setFields, List.foldlM_cons]
  exact bind_eq_ok

theorem put_some {σ β : Type} (put : σ → Option β → σ) (read : Value → Except SchemaError β) (s : σ)
    (v : Value) :
    (do return put s (some (← read v)) : Except SchemaError σ) = do
      let b? ← (do return some (← read v) : Except SchemaError (Option β))
      return put s b? := by
  cases read v <;> rfl

/-! ## Parts -/

/-- The parts of a section: for each of them a type, a key, how it is read, what it is and how it
is replaced. -/
structure Parts (σ ι : Type) where
  Part : ι → Type
  key : ι → String
  read : (i : ι) → Value → Except SchemaError (Part i)
  get : (i : ι) → σ → Part i
  put : (i : ι) → σ → Part i → σ

/-- The fields that are set are these parts, none of which disturbs another one, and the parts make
up the section. -/
structure Parts.Lawful {σ ι : Type} (p : Parts σ ι) (field : String → Option (Setter σ)) :
    Prop where
  field_key : ∀ i, field (p.key i) = some fun s v => do return p.put i s (← p.read i v)
  field_other : ∀ name, (∀ i, name ≠ p.key i) → field name = none
  key_ne : ∀ i j, i ≠ j → p.key i ≠ p.key j
  get_put : ∀ i s v b, p.read i v = .ok b → p.get i (p.put i s b) = b
  get_put_of_ne : ∀ i j s b, i ≠ j → p.get j (p.put i s b) = p.get j s
  ext : ∀ s s', (∀ i, p.get i s = p.get i s') → s = s'

namespace Parts.Lawful

variable {σ ι : Type} {p : Parts σ ι} {field : String → Option (Setter σ)}

/-- **A section is read part by part**, in whatever order the keys come. -/
theorem setFields_eq_ok_iff (h : p.Lawful field) {entries : List (String × Value)}
    (hkeys : (entries.map Prod.fst).Nodup) {s s' : σ} :
    setFields field s entries = .ok s' ↔
      ∀ i, Takes (Reads (p.read i)) (lookup (p.key i) entries) (p.get i s) (p.get i s') := by
  induction entries generalizing s with
  | nil =>
    simp only [lookup, takes_none]
    show Except.ok s = Except.ok s' ↔ _
    rw [Except.ok.injEq]
    exact ⟨fun hs i => hs ▸ rfl, fun hs => h.ext s s' fun i => (hs i).symm⟩
  | cons e entries ih =>
    obtain ⟨hnew, hkeys⟩ := List.nodup_cons.1 hkeys
    rw [setFields_cons]
    by_cases hknown : ∃ i, e.1 = p.key i
    · obtain ⟨i, hi⟩ := hknown
      -- the part of this key is set now, and not once more
      have hnone : lookup (p.key i) entries = none := Dict.lookup_eq_none (hi ▸ hnew)
      have hsame : lookup (p.key i) (e :: entries) = some e.2 := by rw [lookup, if_pos hi.symm]
      have hother : ∀ j, i ≠ j → lookup (p.key j) (e :: entries) = lookup (p.key j) entries :=
        fun j hij => by rw [lookup, if_neg fun hj => h.key_ne i j hij (hi.symm.trans hj.symm)]
      rw [hi, h.field_key i]
      simp only [return_eq_ok, ih hkeys]
      constructor
      · rintro ⟨_, ⟨b, hb, rfl⟩, hrest⟩ j
        by_cases hij : i = j
        · subst hij
          have hput := hrest i
          rw [hnone, takes_none, h.get_put i s _ b hb] at hput
          rw [hsame, takes_some, hput]
          exact hb
        · have hput := hrest j
          rwa [h.get_put_of_ne i j s b hij, ← hother j hij] at hput
      · intro hall
        have hb := hall i
        rw [hsame, takes_some] at hb
        refine ⟨_, ⟨p.get i s', hb, rfl⟩, fun j => ?_⟩
        by_cases hij : i = j
        · subst hij
          rw [hnone, takes_none, h.get_put i s _ _ hb]
        · rw [h.get_put_of_ne i j s _ hij, ← hother j hij]
          exact hall j
    · have hne : ∀ i, e.1 ≠ p.key i := not_exists.1 hknown
      have hother : ∀ i, lookup (p.key i) (e :: entries) = lookup (p.key i) entries :=
        fun i => by rw [lookup, if_neg (Ne.symm (hne i))]
      simp only [h.field_other e.1 hne, Except.ok.injEq, exists_eq_left', ih hkeys, hother]

end Parts.Lawful

/-! ## The parts of the sections -/

/-- The parts of the section about the node. -/
inductive NodePart where
  | role
  | primaryUrl

/-- The role, and the address that may be missing. -/
def NodeConfig.parts : Parts NodeConfig NodePart where
  Part
    | .role => Role
    | .primaryUrl => Option String
  key
    | .role => "role"
    | .primaryUrl => "primary_url"
  read
    | .role => Replica.role
    | .primaryUrl => fun v => do return some (← textValue v)
  get
    | .role => fun c => c.role
    | .primaryUrl => fun c => c.primaryUrl?
  put
    | .role => fun c role => { c with role }
    | .primaryUrl => fun c primaryUrl? => { c with primaryUrl? }

theorem NodeConfig.lawful_parts : parts.Lawful field where
  field_key := by
    rintro (_ | _)
    · rfl
    · exact congrArg some (funext fun c => funext fun v =>
        put_some (fun (c : NodeConfig) primaryUrl? => { c with primaryUrl? }) textValue c v)
  field_other := by
    intro name hname
    have hrole : name ≠ "role" := hname .role
    have hurl : name ≠ "primary_url" := hname .primaryUrl
    rw [field, if_neg hrole, if_neg hurl]
  key_ne := by rintro (_ | _) (_ | _) h <;> simp_all [parts]
  get_put := by rintro (_ | _) c v b - <;> rfl
  get_put_of_ne := by rintro (_ | _) (_ | _) c b h <;> simp_all [parts]
  ext := by
    rintro ⟨role, url?⟩ ⟨role', url?'⟩ h
    obtain rfl : role = role' := h .role
    obtain rfl : url? = url?' := h .primaryUrl
    rfl

/-- The parts of the section about requests. -/
inductive HttpPart where
  | connectTimeout
  | timeout
  | maxRedirects

/-- Three numbers, of which one may be missing. -/
def HttpConfig.parts : Parts HttpConfig HttpPart where
  Part
    | .connectTimeout => Nat
    | .timeout => Option Nat
    | .maxRedirects => Nat
  key
    | .connectTimeout => "connect_timeout_secs"
    | .timeout => "timeout_secs"
    | .maxRedirects => "max_redirects"
  read
    | .connectTimeout => unsigned .unsigned
    | .timeout => fun v => do return some (← unsigned .unsigned v)
    | .maxRedirects => unsigned .size
  get
    | .connectTimeout => fun c => c.connectTimeoutSecs
    | .timeout => fun c => c.timeoutSecs?
    | .maxRedirects => fun c => c.maxRedirects
  put
    | .connectTimeout => fun c connectTimeoutSecs => { c with connectTimeoutSecs }
    | .timeout => fun c timeoutSecs? => { c with timeoutSecs? }
    | .maxRedirects => fun c maxRedirects => { c with maxRedirects }

theorem HttpConfig.lawful_parts : parts.Lawful field where
  field_key := by
    rintro (_ | _ | _)
    · rfl
    · exact congrArg some (funext fun c => funext fun v =>
        put_some (fun (c : HttpConfig) timeoutSecs? => { c with timeoutSecs? })
          (unsigned .unsigned) c v)
    · rfl
  field_other := by
    intro name hname
    have hconnect : name ≠ "connect_timeout_secs" := hname .connectTimeout
    have htimeout : name ≠ "timeout_secs" := hname .timeout
    have hredirects : name ≠ "max_redirects" := hname .maxRedirects
    rw [field, if_neg hconnect, if_neg htimeout, if_neg hredirects]
  key_ne := by rintro (_ | _ | _) (_ | _ | _) h <;> simp_all [parts]
  get_put := by rintro (_ | _ | _) c v b - <;> rfl
  get_put_of_ne := by rintro (_ | _ | _) (_ | _ | _) c b h <;> simp_all [parts]
  ext := by
    rintro ⟨connect, timeout?, redirects⟩ ⟨connect', timeout?', redirects'⟩ h
    obtain rfl : connect = connect' := h .connectTimeout
    obtain rfl : timeout? = timeout?' := h .timeout
    obtain rfl : redirects = redirects' := h .maxRedirects
    rfl

/-- The only part of the section about container registries is its limit. -/
def RegistryConfig.parts : Parts RegistryConfig Unit where
  Part := fun _ => Nat
  key := fun _ => "delete_tags_service_timeout_secs"
  read := fun _ => unsigned .unsigned
  get := fun _ c => c.deleteTagsTimeoutSecs
  put := fun _ c deleteTagsTimeoutSecs => { c with deleteTagsTimeoutSecs }

theorem RegistryConfig.lawful_parts : parts.Lawful field where
  field_key := fun _ => rfl
  field_other := fun name hname => if_neg (hname ())
  key_ne := fun _ _ h => absurd rfl h
  get_put := fun _ _ _ _ _ => rfl
  get_put_of_ne := fun _ _ _ _ h => absurd rfl h
  ext := by
    rintro ⟨limit⟩ ⟨limit'⟩ h
    obtain rfl : limit = limit' := h ()
    rfl

/-- The sections of a configuration. -/
inductive Section where
  | node
  | http
  | registry
  | features

/-- The sections are the parts of the whole. -/
def Config.parts : Parts Config Section where
  Part
    | .node => NodeConfig
    | .http => HttpConfig
    | .registry => RegistryConfig
    | .features => Flags
  key
    | .node => "node"
    | .http => "http"
    | .registry => "registry"
    | .features => "features"
  read
    | .node => nodeSection
    | .http => httpSection
    | .registry => registrySection
    | .features => featureTable
  get
    | .node => fun c => c.node
    | .http => fun c => c.http
    | .registry => fun c => c.registry
    | .features => fun c => c.features
  put
    | .node => fun c node => { c with node }
    | .http => fun c http => { c with http }
    | .registry => fun c registry => { c with registry }
    | .features => fun c features => { c with features }

theorem Config.lawful_parts : parts.Lawful field where
  field_key := by rintro (_ | _ | _ | _) <;> rfl
  field_other := by
    intro name hname
    have hnode : name ≠ "node" := hname .node
    have hhttp : name ≠ "http" := hname .http
    have hregistry : name ≠ "registry" := hname .registry
    have hfeatures : name ≠ "features" := hname .features
    rw [field, if_neg hnode, if_neg hhttp, if_neg hregistry, if_neg hfeatures]
  key_ne := by rintro (_ | _ | _ | _) (_ | _ | _ | _) h <;> simp_all [parts]
  get_put := by rintro (_ | _ | _ | _) c v b - <;> rfl
  get_put_of_ne := by
    rintro (_ | _ | _ | _) (_ | _ | _ | _) c b h <;> simp_all [parts]
  ext := by
    rintro ⟨node, http, registry, features⟩ ⟨node', http', registry', features'⟩ h
    obtain rfl : node = node' := h .node
    obtain rfl : http = http' := h .http
    obtain rfl : registry = registry' := h .registry
    obtain rfl : features = features' := h .features
    rfl

/-! ## Flags -/

/-- Every name is the key of a flag. -/
def Flags.field (name : String) : Option (Setter Flags) :=
  some fun flags v => do return flags.set name (← boolean v)

/-- The parts of a table of flags are the flags by their names. -/
def Flags.parts : Parts Flags String where
  Part := fun _ => Option Bool
  key := fun name => name
  read := fun _ v => do return some (← boolean v)
  get := fun name flags => flags.get? name
  put := fun name flags value? => value?.elim flags (flags.set name)

theorem Flags.lawful_parts : parts.Lawful field where
  field_key := fun name => congrArg some (funext fun flags => funext fun v =>
      put_some (fun (flags : Flags) value? => value?.elim flags (flags.set name)) boolean flags v)
  field_other := fun name hname => absurd rfl (hname name)
  key_ne := fun _ _ h => h
  get_put := by
    intro name flags v value? hread
    obtain ⟨value, -, rfl⟩ := return_eq_ok.1 hread
    exact (Dict.get?_insert flags name name value).trans (if_pos rfl)
  get_put_of_ne := by
    intro name other flags value? hne
    cases value? with
    | none => rfl
    | some value => exact (Dict.get?_insert flags name other value).trans (if_neg (Ne.symm hne))
  ext := fun _ _ h => Dict.ext_get? h

theorem featureTable_table (entries : List (String × Value)) :
    featureTable (.table entries) = setFields Flags.field Dict.empty entries := by
  have hfold : ∀ flags : Flags,
      (do
        let pairs ← entries.mapM fun e => do return (e.1, ← boolean e.2)
        return pairs.foldl (fun d e => d.insert e.1 e.2) flags) =
      setFields Flags.field flags entries := by
    induction entries with
    | nil => intro flags; rfl
    | cons e entries ih =>
      intro flags
      rw [setFields, List.foldlM_cons, List.mapM_cons]
      simp only [Flags.field, bind_assoc, pure_bind, List.foldl_cons]
      cases boolean e.2 with
      | error err => rfl
      | ok b => exact ih (flags.set e.1 b)
  exact hfold Dict.empty

end Replica
