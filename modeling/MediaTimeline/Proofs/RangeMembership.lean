import MediaTimeline.Proofs.Cursor

/-! The instants a range holds, and its keys. -/

namespace MediaTimeline

namespace TimeRange

instance : Membership Stamp TimeRange := ⟨fun r t => r.Admits t.nanos⟩

variable {r : TimeRange} {t : Stamp} {b : Bound}

theorem mem_iff_admits : t ∈ r ↔ r.Admits t.nanos := Iff.rfl

/-- A start at a 64-bit instant has a 64-bit key, unless it is open at the greatest count. -/
theorem startKey_of_fits (hb : r.lower = some b) (h64 : IsInt64 b.stamp.nanos)
    (hmax : ¬ (b.stamp.nanos = int64Max ∧ b.closed = false)) :
    ∃ k, IsInt64 k ∧ r.startKey = .ok k := by
  unfold startKey
  simp only [hb, Stamp.toNanos?, if_pos h64]
  cases hc : b.closed
  · -- an open start: the key is the next nanosecond, which is still a 64-bit count
    have hne : b.stamp.nanos ≠ int64Max := fun h => hmax ⟨h, hc⟩
    refine ⟨b.stamp.nanos + 1, ?_, by simp [hne]⟩
    unfold IsInt64 int64Min int64Max at *
    omega
  · exact ⟨b.stamp.nanos, h64, by simp⟩

theorem stopKey_of_fits (hb : r.upper = some b) (h64 : IsInt64 b.stamp.nanos)
    (hmin : ¬ (b.stamp.nanos = int64Min ∧ b.closed = false)) :
    ∃ k, IsInt64 k ∧ r.stopKey = .ok k := by
  unfold stopKey
  simp only [hb, Stamp.toNanos?, if_pos h64]
  cases hc : b.closed
  · have hne : b.stamp.nanos ≠ int64Min := fun h => hmin ⟨h, hc⟩
    refine ⟨b.stamp.nanos - 1, ?_, by simp [hne]⟩
    unfold IsInt64 int64Min int64Max at *
    omega
  · exact ⟨b.stamp.nanos, h64, by simp⟩

theorem startKey_of_overflow (hb : r.lower = some b)
    (h : ¬ IsInt64 b.stamp.nanos ∨ (b.stamp.nanos = int64Max ∧ b.closed = false)) :
    ∃ e, r.startKey = .error e ∧ e.classes = [.overflow] := by
  unfold startKey
  rw [hb]
  by_cases h64 : IsInt64 b.stamp.nanos
  · obtain ⟨hmax, hc⟩ := h.resolve_left (not_not.2 h64)
    refine ⟨.openStartAtMax b.stamp, ?_, rfl⟩
    simp only [Stamp.toNanos?, if_pos h64, hc, Bool.false_eq_true, if_false]
    simp [hmax]
  · exact ⟨.overflow b.stamp, by simp [Stamp.toNanos?, h64], rfl⟩

theorem stopKey_of_overflow (hb : r.upper = some b)
    (h : ¬ IsInt64 b.stamp.nanos ∨ (b.stamp.nanos = int64Min ∧ b.closed = false)) :
    ∃ e, r.stopKey = .error e ∧ e.classes = [.overflow] := by
  unfold stopKey
  rw [hb]
  by_cases h64 : IsInt64 b.stamp.nanos
  · obtain ⟨hmin, hc⟩ := h.resolve_left (not_not.2 h64)
    refine ⟨.openStopAtMin b.stamp, ?_, rfl⟩
    simp only [Stamp.toNanos?, if_pos h64, hc, Bool.false_eq_true, if_false]
    simp [hmin]
  · exact ⟨.overflow b.stamp, by simp [Stamp.toNanos?, h64], rfl⟩

theorem admits_iff_of_startKey_stopKey {a z n : Int} (ha : r.startKey = .ok a)
    (hz : r.stopKey = .ok z) : r.Admits n ↔ a ≤ n ∧ n ≤ z := by
  obtain ⟨l, hl, hla⟩ := startKey_eq_ok ha
  obtain ⟨u, hu, huz⟩ := stopKey_eq_ok hz
  simp [Admits, hl, hu, hla, huz]

/-- The keys of a range against the instants it holds. An absent end gives no key; a present end
overflows exactly when its instant has no 64-bit count or it is open at the extreme count, and
otherwise has a 64-bit key that splits the nanoseconds it lets in from those it does not; so the
instant of a nanosecond count lies in a range with both keys exactly when the count lies between
them. -/
theorem closed_keys_agree_with_membership (r : TimeRange) :
    (r.lower = none → r.startKey = .error .unbounded) ∧
    (∀ b ∈ r.lower,
      ((¬ IsInt64 b.stamp.nanos ∨ (b.stamp.nanos = int64Max ∧ b.closed = false)) →
        ∃ e, r.startKey = .error e ∧ e.classes = [.overflow]) ∧
      (IsInt64 b.stamp.nanos → ¬ (b.stamp.nanos = int64Max ∧ b.closed = false) →
        ∃ k, IsInt64 k ∧ r.startKey = .ok k ∧ ∀ n, b.AdmitsFrom n ↔ k ≤ n)) ∧
    (r.upper = none → r.stopKey = .error .unbounded) ∧
    (∀ b ∈ r.upper,
      ((¬ IsInt64 b.stamp.nanos ∨ (b.stamp.nanos = int64Min ∧ b.closed = false)) →
        ∃ e, r.stopKey = .error e ∧ e.classes = [.overflow]) ∧
      (IsInt64 b.stamp.nanos → ¬ (b.stamp.nanos = int64Min ∧ b.closed = false) →
        ∃ k, IsInt64 k ∧ r.stopKey = .ok k ∧ ∀ n, b.AdmitsUpTo n ↔ n ≤ k)) ∧
    ∀ a z, r.startKey = .ok a → r.stopKey = .ok z →
      ∀ n, Stamp.ofNanos n ∈ r ↔ a ≤ n ∧ n ≤ z := by
  refine ⟨startKey_of_lower_none, fun b hb => ⟨startKey_of_overflow hb, fun h64 hmax => ?_⟩,
    stopKey_of_upper_none, fun b hb => ⟨stopKey_of_overflow hb, fun h64 hmin => ?_⟩,
    fun a z ha hz n => admits_iff_of_startKey_stopKey ha hz⟩
  · obtain ⟨k, hk, hkey⟩ := startKey_of_fits hb h64 hmax
    obtain ⟨b', hb', hsplit⟩ := startKey_eq_ok hkey
    rw [hb, Option.some.injEq] at hb'
    exact ⟨k, hk, hkey, hb' ▸ hsplit⟩
  · obtain ⟨k, hk, hkey⟩ := stopKey_of_fits hb h64 hmin
    obtain ⟨b', hb', hsplit⟩ := stopKey_eq_ok hkey
    rw [hb, Option.some.injEq] at hb'
    exact ⟨k, hk, hkey, hb' ▸ hsplit⟩

/-- A range open at the greatest count: its start overflows, and its closed end at the least
count has that count as its key. -/
theorem closed_keys_at_extremes :
    let r : TimeRange := ⟨some ⟨⟨int64Max⟩, false⟩, some ⟨⟨int64Min⟩, true⟩⟩
    (∃ e, r.startKey = .error e ∧ e.classes = [.overflow]) ∧
      ∃ k, IsInt64 k ∧ r.stopKey = .ok k ∧ ∀ n, Bound.AdmitsUpTo ⟨⟨int64Min⟩, true⟩ n ↔ n ≤ k := by
  intro r
  obtain ⟨-, hlo, -, hhi, -⟩ := closed_keys_agree_with_membership r
  refine ⟨(hlo _ rfl).1 (.inr ⟨rfl, rfl⟩), (hhi _ rfl).2 ?_ ?_⟩
  · unfold IsInt64 int64Min int64Max
    decide
  · simp

end TimeRange

end MediaTimeline
