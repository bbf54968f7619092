import Replica.Transfer.Result

/-!
# The delays of a backoff

In nanoseconds, a delay is the base doubled with every attempt and cut off at the largest duration.
That is so while the doubling factor is a number of 32 bits; from attempt 32 on, any base but zero
gives the largest duration, however small its multiple would be.

* `Duration.toNanos_inj`, `Duration.le_iff_toNanos_le`: durations and their nanoseconds;
* `Duration.ofParts?_eq_some_iff`, `Duration.toNanos_scale`: a carry, and a multiple cut off;
* `toNanos_backoff`: a delay in nanoseconds;
* **`backoff_law`**: the delays, and which of them are the doubled base;
* **`backoff_never_shrinks`**: a later attempt, or a larger base, never waits for a shorter time.
-/

namespace Replica

namespace Duration

variable {a b : Duration}

/-! ## Durations as numbers -/

theorem toNanos_le_max (d : Duration) : d.toNanos ≤ Duration.max.toNanos := by
  have hsecs := d.secs_lt
  have hnanos := d.nanos_lt
  simp only [toNanos, max]
  omega

theorem toNanos_inj : a.toNanos = b.toNanos ↔ a = b := by
  refine ⟨fun h => ?_, fun h => h ▸ rfl⟩
  have ha := a.nanos_lt
  have hb := b.nanos_lt
  simp only [toNanos] at h
  ext <;> omega

theorem toNanos_eq_zero_iff : a.toNanos = 0 ↔ a = zero := toNanos_inj (b := zero)

theorem le_iff_toNanos_le : a ≤ b ↔ a.toNanos ≤ b.toNanos := by
  have ha := a.nanos_lt
  have hb := b.nanos_lt
  show a.secs < b.secs ∨ a.secs = b.secs ∧ a.nanos ≤ b.nanos ↔ _
  simp only [toNanos]
  omega

theorem isZero_iff : a.isZero = true ↔ a = zero := by
  rw [← toNanos_eq_zero_iff]
  simp only [isZero, toNanos, Bool.and_eq_true, beq_iff_eq]
  omega

/-! ## Multiples -/

theorem ofParts?_eq_some_iff {secs nanos : Nat} :
    ofParts? secs nanos = some a ↔ a.toNanos = secs * 1000000000 + nanos := by
  refine ⟨toNanos_of_ofParts?, fun h => ?_⟩
  have hsecs := a.secs_lt
  have hnanos := a.nanos_lt
  simp only [toNanos] at h
  have hs : secs + nanos / 1000000000 = a.secs := by omega
  have hn : nanos % 1000000000 = a.nanos := by omega
  rw [ofParts?, dif_pos (hs ▸ hsecs)]
  congr 1
  ext
  · exact hs
  · exact hn

theorem ofParts?_eq_none_iff {secs nanos : Nat} :
    ofParts? secs nanos = none ↔ Duration.max.toNanos < secs * 1000000000 + nanos := by
  simp only [ofParts?, dite_eq_right_iff, reduceCtorEq, imp_false, toNanos, max]
  omega

/-- **A multiple** in nanoseconds, cut off at the largest duration. -/
theorem toNanos_scale (d : Duration) (factor : Nat) :
    (d.scale factor).toNanos = min (d.toNanos * factor) Duration.max.toNanos := by
  have hparts : d.secs * factor * 1000000000 + d.nanos * factor = d.toNanos * factor := by
    rw [toNanos, Nat.add_mul, Nat.mul_right_comm]
  cases h : d.scale? factor with
  | some e =>
    have he : e.toNanos = d.toNanos * factor := hparts ▸ ofParts?_eq_some_iff.1 h
    rw [scale, h, Option.getD_some, he, Nat.min_eq_left (he ▸ e.toNanos_le_max)]
  | none =>
    have hmax : Duration.max.toNanos < d.toNanos * factor := hparts ▸ ofParts?_eq_none_iff.1 h
    rw [scale, h, Option.getD_none, Nat.min_eq_right (Nat.le_of_lt hmax)]

end Duration

/-! ## Delays -/

variable {m n : Nat} {base base' : Duration}

/-- **A delay in nanoseconds.** -/
theorem toNanos_backoff (n : Nat) (base : Duration) :
    (backoff n base).toNanos =
      if n < 32 ∨ base = .zero then min (base.toNanos * Nat.pow 2 n) Duration.max.toNanos
      else Duration.max.toNanos := by
  unfold backoff
  by_cases hn : n < 32
  · rw [if_pos hn, if_pos (.inl hn), Duration.toNanos_scale]
  · rw [if_neg hn]
    by_cases hzero : base = .zero
    · subst hzero
      rw [if_pos (Duration.isZero_iff.2 rfl), if_pos (.inr rfl)]
      show 0 = min (0 * Nat.pow 2 n) Duration.max.toNanos
      rw [Nat.zero_mul, Nat.zero_min]
    · rw [if_neg (mt Duration.isZero_iff.1 hzero), if_neg (not_or.2 ⟨hn, hzero⟩)]

theorem le_toNanos_backoff (n : Nat) (base : Duration) :
    min (base.toNanos * Nat.pow 2 n) Duration.max.toNanos ≤ (backoff n base).toNanos := by
  rw [toNanos_backoff]
  split
  · exact Nat.le_refl _
  · exact Nat.min_le_right _ _

theorem backoff_eq_zero_iff : backoff n base = .zero ↔ base = .zero := by
  constructor
  · intro h
    have hmax : 0 < Duration.max.toNanos := by decide
    have hmin : min (base.toNanos * Nat.pow 2 n) Duration.max.toNanos = 0 :=
      Nat.le_zero.1 (Duration.toNanos_eq_zero_iff.2 h ▸ le_toNanos_backoff n base)
    have hmul : base.toNanos * Nat.pow 2 n = 0 := by omega
    refine Duration.toNanos_eq_zero_iff.1 ((Nat.mul_eq_zero.1 hmul).resolve_right ?_)
    exact Nat.ne_of_gt (Nat.pow_pos (by decide))
  · rintro rfl
    rw [← Duration.toNanos_eq_zero_iff, toNanos_backoff, if_pos (.inr rfl)]
    show min (0 * Nat.pow 2 n) Duration.max.toNanos = 0
    rw [Nat.zero_mul, Nat.zero_min]

/-- **Delays are monotone** in the attempt and in the base, also where the doubling ends. -/
theorem backoff_mono (hmn : m ≤ n) (hbase : base ≤ base') : backoff m base ≤ backoff n base' := by
  rw [Duration.le_iff_toNanos_le] at hbase ⊢
  have hmul : base.toNanos * Nat.pow 2 m ≤ base'.toNanos * Nat.pow 2 n :=
    Nat.mul_le_mul hbase (Nat.pow_le_pow_right (by decide) hmn)
  rw [toNanos_backoff n base']
  split
  case isFalse => exact Duration.toNanos_le_max _
  case isTrue h =>
    -- where the later delay is the doubled base, so is the earlier one
    have hm : m < 32 ∨ base = .zero := by
      refine h.imp (Nat.lt_of_le_of_lt hmn) fun hzero => ?_
      rw [hzero] at hbase
      exact Duration.toNanos_eq_zero_iff.1 (Nat.le_zero.1 hbase)
    rw [toNanos_backoff, if_pos hm]
    omega

theorem TransferResult.retryDelay?_of_isRetryable {r : TransferResult} {kind : FailureKind}
    (h : r.failureKind? = some kind) (hkind : kind.isRetryable = true) (n : Nat)
    (base : Duration) : r.retryDelay? n base = some (backoff n base) := by
  rw [retryDelay?, h]
  exact if_pos hkind

/-! ## The laws -/

/-- **The law of the backoff.** Below attempt 32, and for the base zero at any attempt, a delay is
the doubled base, cut off at the largest duration; at a later attempt any other base gives the
largest duration. So a delay is the doubled base, cut off, just below attempt 32, for the base zero,
and where the doubled base is no shorter than the largest duration. -/
theorem backoff_law (n : Nat) (base : Duration) :
    (backoff n base).toNanos =
        (if n < 32 ∨ base = .zero then min (base.toNanos * Nat.pow 2 n) Duration.max.toNanos
          else Duration.max.toNanos) ∧
      ((backoff n base).toNanos = min (base.toNanos * Nat.pow 2 n) Duration.max.toNanos ↔
        n < 32 ∨ base = .zero ∨ Duration.max.toNanos ≤ base.toNanos * Nat.pow 2 n) := by
  refine ⟨toNanos_backoff n base, ?_⟩
  rw [toNanos_backoff]
  by_cases h : n < 32 ∨ base = .zero
  · rw [if_pos h]
    exact iff_of_true rfl (h.imp_right .inl)
  · rw [if_neg h]
    obtain ⟨hn, hzero⟩ := not_or.1 h
    rw [or_iff_right hn, or_iff_right hzero]
    omega

/-- At attempt 32 a nanosecond has been doubled to about four seconds, and the delay is the largest
duration. -/
theorem backoff_ends_doubling :
    let nanosecond : Duration := ⟨0, 1, by decide, by decide⟩
    nanosecond.toNanos * Nat.pow 2 32 = 4294967296 ∧
      4294967296 ≤ Duration.max.toNanos ∧
      (backoff 32 nanosecond).toNanos ≠ 4294967296 ∧
      backoff 32 nanosecond = Duration.max := by
  decide

/-- **A backoff never shrinks**, neither where the doubling ends nor where it is cut off. A later
attempt and a larger base wait as long at least. The delay has less than a second in nanoseconds, is
zero just for the base zero, and is no shorter than the doubled base, cut off at the largest
duration. So a result that allows a further attempt has delays that never fall. -/
theorem backoff_never_shrinks :
    (∀ (m n : Nat) (base base' : Duration), m ≤ n → base ≤ base' →
      backoff m base ≤ backoff n base') ∧
    (∀ (n : Nat) (base : Duration),
      (backoff n base).nanos < 1000000000 ∧
      (backoff n base = .zero ↔ base = .zero) ∧
      min (base.toNanos * Nat.pow 2 n) Duration.max.toNanos ≤ (backoff n base).toNanos) ∧
    ∀ (r : TransferResult) (kind : FailureKind) (base : Duration),
      r.failureKind? = some kind → kind.isRetryable = true →
        ∃ delay : Nat → Duration, (∀ n, r.retryDelay? n base = some (delay n)) ∧
          ∀ m n, m ≤ n → delay m ≤ delay n := by
  refine ⟨fun m n base base' => backoff_mono, fun n base => ⟨?_, ?_, ?_⟩, ?_⟩
  · exact (backoff n base).nanos_lt
  · exact backoff_eq_zero_iff
  · exact le_toNanos_backoff n base
  · intro r kind base h hkind
    refine ⟨fun n => backoff n base, fun n => ?_, fun m n hmn => ?_⟩
    · exact r.retryDelay?_of_isRetryable h hkind n base
    · exact backoff_mono hmn (Duration.le_iff_toNanos_le.2 (Nat.le_refl _))

/-- Where the doubling ends, and where a carry from the nanoseconds reaches the largest duration. -/
theorem backoff_never_shrinks_at_bounds :
    let nanosecond : Duration := ⟨0, 1, by decide, by decide⟩
    let half : Duration := ⟨0x7fffffffffffffff, 999999999, by decide, by decide⟩
    let refused := TransferResult.failed .transport "Error downloading file"
    (31 ≤ 32 ∧ backoff 31 nanosecond ≤ backoff 32 nanosecond) ∧
    (0 ≤ 1 ∧ nanosecond ≤ half ∧ backoff 0 nanosecond ≤ backoff 1 half) ∧
    refused.failureKind? = some .transport ∧ FailureKind.transport.isRetryable = true ∧
    ∃ delay : Nat → Duration, (∀ n, refused.retryDelay? n half = some (delay n)) ∧
      ∀ m n, m ≤ n → delay m ≤ delay n := by
  intro nanosecond half refused
  have hle : nanosecond ≤ half := .inl (by decide)
  have hself : nanosecond ≤ nanosecond := .inr ⟨rfl, Nat.le_refl 1⟩
  exact ⟨⟨by decide, backoff_never_shrinks.1 31 32 _ _ (by decide) hself⟩,
    ⟨by decide, hle, backoff_never_shrinks.1 0 1 _ _ (by decide) hle⟩, rfl, rfl,
    backoff_never_shrinks.2.2 refused .transport half rfl rfl⟩

end Replica
