import Replica.Config.Text
import Replica.Proofs.Fallible
import Replica.Proofs.Toml.Inheritance

/-!
# The numbers of a configuration

A document holds integers of 64 bits with sign, and so does a configuration that was read from one.

* `HttpConfig.InRange`, `Config.InRange`: the numbers of a configuration fit into a document;
* `Keeps`, `keeps_of_read`: what a setter keeps, whatever value it is given;
* `keeps_setFields`, `keeps_sectionOf`: what the setters of a section keep, the section keeps;
* **`Config.inRange_of_parse`**: the numbers of a configuration that was read.
-/

namespace Replica

open Toml (Value)

/-- The numbers of the limits of requests fit into a document. -/
structure HttpConfig.InRange (c : HttpConfig) : Prop where
  connectTimeout : c.connectTimeoutSecs ≤ Toml.maxInteger
  timeout : ∀ n, c.timeoutSecs? = some n → n ≤ Toml.maxInteger
  maxRedirects : c.maxRedirects ≤ Toml.maxInteger

/-- The numbers of a configuration fit into a document. -/
structure Config.InRange (c : Config) : Prop where
  http : c.http.InRange
  deleteTagsTimeout : c.registry.deleteTagsTimeoutSecs ≤ Toml.maxInteger

/-! ## The numbers that are read -/

section

variable {σ : Type} {P : σ → Prop}

/-- A setter keeps a property, whatever value with integers of 64 bits it is given. -/
def Keeps (P : σ → Prop) (set : Setter σ) : Prop :=
  ∀ s v s', P s → v.InRange → set s v = .ok s' → P s'

theorem keeps_of_read {β : Type} (put : σ → β → σ) (read : Value → Except SchemaError β)
    (h : ∀ s v b, P s → v.InRange → read v = .ok b → P (put s b)) :
    Keeps P fun s v => do return put s (← read v) := by
  intro s v s' hs hv hset
  obtain ⟨b, hb, hset⟩ := bind_eq_ok.1 hset
  cases hset
  exact h s v b hs hv hb

theorem keeps_setFields {field : String → Option (Setter σ)}
    (hfield : ∀ name set, field name = some set → Keeps P set)
    {entries : List (String × Value)} (hentries : ∀ e ∈ entries, e.2.InRange) {s s' : σ} (hs : P s)
    (h : setFields field s entries = .ok s') : P s' := by
  refine keeps_foldlM_ok (fun s e he s' hs hset => ?_) hs h
  split at hset
  · exact hfield _ _ ‹_› s _ s' hs (hentries e he) hset
  · cases hset
    exact hs

theorem keeps_sectionOf {wanted : Wanted} {field : String → Option (Setter σ)}
    {positions : List (Setter σ)} {initial : σ}
    (hfield : ∀ name set, field name = some set → Keeps P set)
    (hpositions : ∀ set ∈ positions, Keeps P set) (hinitial : P initial) {v : Value}
    (hv : v.InRange) {s : σ} (h : sectionOf wanted field positions initial v = .ok s) : P s := by
  unfold sectionOf at h
  split at h
  case h_1 =>
    cases hv with
    | table hentries => exact keeps_setFields hfield hentries hinitial h
  case h_2 =>
    cases hv with
    | array _ hitems =>
      refine keeps_foldlM_ok (fun s p hp s' hs hset => ?_) hinitial h
      obtain ⟨hposition, hitem⟩ := List.of_mem_zip hp
      exact hpositions _ hposition s _ s' hs (hitems _ hitem) hset
  case h_3 =>
    cases h
    exact hinitial
  case h_4 => cases h

end

theorem unsigned_natCast (wanted : Wanted) (n : Nat) : unsigned wanted (.integer n) = .ok n := by
  rw [unsigned, if_pos (Int.natCast_nonneg n), Int.toNat_natCast]

theorem le_of_unsigned {wanted : Wanted} {v : Value} {n : Nat} (hv : v.InRange)
    (h : unsigned wanted v = .ok n) : n ≤ Toml.maxInteger := by
  unfold unsigned at h
  split at h
  · split at h
    · cases h
      cases hv with
      | integer hrange =>
        simp only [Toml.inIntegerRange, Bool.and_eq_true, decide_eq_true_eq] at hrange
        exact Int.toNat_le.2 hrange.2
    · cases h
  · cases h

namespace HttpConfig

theorem inRange_default : InRange {} := by
  refine ⟨by decide, ?_, by decide⟩
  intro n h
  cases h

theorem keeps_setConnectTimeout : Keeps InRange setConnectTimeout :=
  keeps_of_read (fun (c : HttpConfig) n => { c with connectTimeoutSecs := n }) (unsigned .unsigned)
    fun _ _ _ hc hv hn => { hc with connectTimeout := le_of_unsigned hv hn }

theorem keeps_setTimeout : Keeps InRange setTimeout := by
  refine keeps_of_read (fun (c : HttpConfig) n => { c with timeoutSecs? := some n })
    (unsigned .unsigned) ?_
  intro c v n hc hv hn
  refine { hc with timeout := ?_ }
  intro m hm
  cases hm
  exact le_of_unsigned hv hn

theorem keeps_setMaxRedirects : Keeps InRange setMaxRedirects :=
  keeps_of_read (fun (c : HttpConfig) n => { c with maxRedirects := n }) (unsigned .size)
    fun _ _ _ hc hv hn => { hc with maxRedirects := le_of_unsigned hv hn }

theorem keeps_field (name : String) (set : Setter HttpConfig) (h : field name = some set) :
    Keeps InRange set := by
  unfold field at h
  split at h
  · cases h
    exact keeps_setConnectTimeout
  split at h
  · cases h
    exact keeps_setTimeout
  split at h
  · cases h
    exact keeps_setMaxRedirects
  · cases h

theorem inRange_of_httpSection {v : Value} {c : HttpConfig} (hv : v.InRange)
    (h : httpSection v = .ok c) : c.InRange := by
  refine keeps_sectionOf keeps_field ?_ inRange_default hv h
  simp [keeps_setConnectTimeout, keeps_setTimeout, keeps_setMaxRedirects]

end HttpConfig

theorem RegistryConfig.le_of_registrySection {v : Value} {c : RegistryConfig} (hv : v.InRange)
    (h : registrySection v = .ok c) : c.deleteTagsTimeoutSecs ≤ Toml.maxInteger := by
  have hset : Keeps (fun c : RegistryConfig => c.deleteTagsTimeoutSecs ≤ Toml.maxInteger)
      RegistryConfig.setDeleteTagsTimeout :=
    keeps_of_read (fun (c : RegistryConfig) n => { c with deleteTagsTimeoutSecs := n })
      (unsigned .unsigned) fun _ _ _ _ hv hn => le_of_unsigned hv hn
  refine keeps_sectionOf (P := fun c => c.deleteTagsTimeoutSecs ≤ Toml.maxInteger) ?_ ?_
    (by decide) hv h
  · intro name set hfield
    unfold field at hfield
    split at hfield
    · cases hfield
      exact hset
    · cases hfield
  · simpa using hset

namespace Config

theorem keeps_setNode : Keeps InRange setNode :=
  keeps_of_read (fun (c : Config) node => { c with node }) nodeSection
    fun _ _ _ hc _ _ => ⟨hc.http, hc.deleteTagsTimeout⟩

theorem keeps_setHttp : Keeps InRange setHttp :=
  keeps_of_read (fun (c : Config) http => { c with http }) httpSection
    fun _ _ _ hc hv h => ⟨HttpConfig.inRange_of_httpSection hv h, hc.deleteTagsTimeout⟩

theorem keeps_setRegistry : Keeps InRange setRegistry :=
  keeps_of_read (fun (c : Config) registry => { c with registry }) registrySection
    fun _ _ _ hc hv h => ⟨hc.http, RegistryConfig.le_of_registrySection hv h⟩

theorem keeps_setFeatures : Keeps InRange setFeatures :=
  keeps_of_read (fun (c : Config) features => { c with features }) featureTable
    fun _ _ _ hc _ _ => ⟨hc.http, hc.deleteTagsTimeout⟩

theorem keeps_field (name : String) (set : Setter Config) (h : field name = some set) :
    Keeps InRange set := by
  unfold field at h
  split at h
  · cases h
    exact keeps_setNode
  split at h
  · cases h
    exact keeps_setHttp
  split at h
  · cases h
    exact keeps_setRegistry
  split at h
  · cases h
    exact keeps_setFeatures
  · cases h

/-- **A configuration that was read** can be written. -/
theorem inRange_of_parse {source : String} {c : Config} (h : parse source = .ok c) : c.InRange := by
  unfold parse at h
  split at h
  · cases h
  · rename_i entries hread
    have hok : ofEntries entries = .ok c := by
      cases he : ofEntries entries with
      | ok c' =>
        rw [he] at h
        cases h
        rfl
      | error e =>
        rw [he] at h
        cases h
    exact keeps_setFields keeps_field (Toml.inRange_of_read hread)
      ⟨HttpConfig.inRange_default, by decide⟩ hok

end Config

end Replica
