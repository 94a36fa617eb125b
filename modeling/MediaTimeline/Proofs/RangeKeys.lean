import Mathlib.Tactic.SplitIfs
import Mathlib.Tactic.ByContra
import MediaTimeline.Segment

/-! Range keys against the instants a range holds. -/

namespace MediaTimeline

namespace Bound

/-- The start `b` of a range lets in the nanosecond `n`. -/
def AdmitsFrom (b : Bound) (n : Int) : Prop :=
  b.stamp.nanos < n ∨ (b.stamp.nanos = n ∧ b.closed = true)

def AdmitsUpTo (b : Bound) (n : Int) : Prop :=
  n < b.stamp.nanos ∨ (n = b.stamp.nanos ∧ b.closed = true)

end Bound

namespace Stamp

theorem eq_iff_nanos {a b : Stamp} : a = b ↔ a.nanos = b.nanos := by
  cases a; cases b; simp

@[simp] theorem lt_iff_nanos {a b : Stamp} : a < b ↔ a.nanos < b.nanos := Iff.rfl

end Stamp

namespace TimeRange

def IsSliver (r : TimeRange) : Prop :=
  ∃ t : Stamp, r.lower = some ⟨t, false⟩ ∧ r.upper = some ⟨⟨t.nanos + 1⟩, false⟩

theorem startKey_eq_ok {r : TimeRange} {a : Int} (h : r.startKey = .ok a) :
    ∃ b, r.lower = some b ∧ ∀ n, b.AdmitsFrom n ↔ a ≤ n := by
  unfold startKey at h
  rcases hl : r.lower with _ | b
  · simp [hl] at h
  · rw [hl] at h
    refine ⟨b, rfl, fun n => ?_⟩
    simp only [Stamp.toNanos?] at h
    by_cases h64 : IsInt64 b.stamp.nanos
    · cases hc : b.closed
      · -- an open start lets in the nanosecond after its instant
        simp only [h64, hc, if_true, Bool.false_eq_true, if_false] at h
        by_cases hmax : b.stamp.nanos = int64Max <;> simp [hmax] at h
        simp [Bound.AdmitsFrom, hc]; omega
      · simp [hc, h64] at h
        simp [Bound.AdmitsFrom, hc]; omega
    · simp [h64] at h

theorem stopKey_eq_ok {r : TimeRange} {z : Int} (h : r.stopKey = .ok z) :
    ∃ b, r.upper = some b ∧ ∀ n, b.AdmitsUpTo n ↔ n ≤ z := by
  unfold stopKey at h
  rcases hu : r.upper with _ | b
  · simp [hu] at h
  · rw [hu] at h
    refine ⟨b, rfl, fun n => ?_⟩
    simp only [Stamp.toNanos?] at h
    by_cases h64 : IsInt64 b.stamp.nanos
    · cases hc : b.closed
      · -- an open end lets in the nanosecond before its instant
        simp only [h64, hc, if_true, Bool.false_eq_true, if_false] at h
        by_cases hmin : b.stamp.nanos = int64Min <;> simp [hmin] at h
        simp [Bound.AdmitsUpTo, hc]; omega
      · simp [hc, h64] at h
        simp [Bound.AdmitsUpTo, hc]; omega
    · simp [h64] at h

theorem stopKey_int64 {r : TimeRange} {z : Int} (h : r.stopKey = .ok z) : IsInt64 z := by
  unfold stopKey at h
  rcases hu : r.upper with _ | b
  · simp [hu] at h
  · rw [hu] at h
    simp only [Stamp.toNanos?] at h
    by_cases h64 : IsInt64 b.stamp.nanos
    · rw [if_pos h64] at h
      dsimp only at h
      split_ifs at h with hc hm
      · cases h
        exact h64
      · cases h
        unfold IsInt64 int64Min int64Max at *
        omega
    · rw [if_neg h64] at h
      cases h

/-- A start whose first nanosecond comes later lies inside. On the grid, "later or equal" is
not enough: `[1` and `(0` let in the same nanoseconds, yet `(0` starts before `[1`. -/
theorem startWithin_of_startKey_lt {r o : TimeRange} {a k : Int} (hr : r.startKey = .ok a)
    (ho : o.startKey = .ok k) (h : a < k) : startWithin r.lower o.lower = true := by
  obtain ⟨b, hb, hba⟩ := startKey_eq_ok hr
  obtain ⟨c, hc, hck⟩ := startKey_eq_ok ho
  have hin : b.AdmitsFrom a := (hba a).2 (Int.le_refl a)
  have hout : ¬ c.AdmitsFrom (k - 1) := fun h' => absurd ((hck _).1 h') (by omega)
  simp only [Bound.AdmitsFrom, not_or, not_and] at hin hout
  rw [hb, hc]
  simp only [startWithin, Stamp.eq_iff_nanos, Bool.or_eq_true, decide_eq_true_eq,
    Bool.and_eq_true, Bool.not_eq_true', Stamp.lt_iff_nanos]
  rcases hin with hin | ⟨hin, hcl⟩
  · omega
  · by_cases heq : b.stamp.nanos = c.stamp.nanos
    · exact .inr ⟨heq, .inr (Bool.eq_false_iff.2 (hout.2 (by omega)))⟩
    · omega

theorem stopWithin_of_lt_stopKey {r o : TimeRange} {z k : Int} (hr : r.stopKey = .ok z)
    (ho : o.stopKey = .ok k) (h : k < z) : stopWithin r.upper o.upper = true := by
  obtain ⟨b, hb, hbz⟩ := stopKey_eq_ok hr
  obtain ⟨c, hc, hck⟩ := stopKey_eq_ok ho
  have hin : b.AdmitsUpTo z := (hbz z).2 (Int.le_refl z)
  have hout : ¬ c.AdmitsUpTo (k + 1) := fun h' => absurd ((hck _).1 h') (by omega)
  simp only [Bound.AdmitsUpTo, not_or, not_and] at hin hout
  rw [hb, hc]
  simp only [stopWithin, Stamp.eq_iff_nanos, Bool.or_eq_true, decide_eq_true_eq,
    Bool.and_eq_true, Bool.not_eq_true', Stamp.lt_iff_nanos]
  rcases hin with hin | ⟨hin, hcl⟩
  · omega
  · by_cases heq : b.stamp.nanos = c.stamp.nanos
    · exact .inr ⟨heq, .inr (Bool.eq_false_iff.2 (hout.2 (by omega)))⟩
    · omega

end TimeRange

namespace Segment

theorem keysOf_eq_ok {r : TimeRange} {a b : Int} :
    keysOf r = .ok (a, b) ↔
      r.isEmpty = false ∧ r.isBounded = true ∧ r.startKey = .ok a ∧ r.stopKey = .ok b := by
  unfold keysOf
  cases r.isEmpty <;> cases r.isBounded <;> cases r.startKey <;> cases r.stopKey <;> simp

theorem keysOf_le_of_not_sliver {r : TimeRange} {a b : Int} (h : keysOf r = .ok (a, b))
    (hs : ¬ r.IsSliver) : a ≤ b := by
  obtain ⟨hne, -, ha, hb⟩ := keysOf_eq_ok.1 h
  obtain ⟨l, hl, hla⟩ := TimeRange.startKey_eq_ok ha
  obtain ⟨u, hu, hub⟩ := TimeRange.stopKey_eq_ok hb
  by_contra hlt
  -- no nanosecond is let in by both ends
  have hgap : ∀ n, l.AdmitsFrom n → u.AdmitsUpTo n → False := fun n h₁ h₂ => by
    have := (hla n).1 h₁; have := (hub n).1 h₂; omega
  simp only [TimeRange.isEmpty, hl, hu, Bool.or_eq_false_iff, decide_eq_false_iff_not,
    Stamp.lt_iff_nanos, Bool.and_eq_false_iff, Bool.not_eq_false', Bool.and_eq_true,
    Stamp.eq_iff_nanos] at hne
  simp only [Bound.AdmitsFrom, Bound.AdmitsUpTo] at hgap
  obtain ⟨hle, heq⟩ := hne
  have hcl : l.closed = false ∧ u.closed = false ∧ u.stamp.nanos = l.stamp.nanos + 1 := by
    rcases heq with heq | ⟨hlc, huc⟩
    · -- the ends are apart: the end must come right after the start, and both be open
      have hu1 : u.stamp.nanos = l.stamp.nanos + 1 := by
        have h₁ : ¬ l.stamp.nanos + 1 < u.stamp.nanos := fun h' =>
          hgap (l.stamp.nanos + 1) (.inl (by omega)) (.inl h')
        omega
      refine ⟨Bool.eq_false_iff.2 fun hc => ?_, Bool.eq_false_iff.2 fun hc => ?_, hu1⟩
      · exact hgap l.stamp.nanos (.inr ⟨rfl, hc⟩) (.inl (by omega))
      · exact hgap (l.stamp.nanos + 1) (.inl (by omega)) (.inr ⟨hu1.symm, hc⟩)
    · -- both ends closed: the start itself is let in at both
      have hup : l.stamp.nanos < u.stamp.nanos ∨ l.stamp.nanos = u.stamp.nanos ∧ u.closed = true := by
        by_cases he : l.stamp.nanos = u.stamp.nanos
        · exact .inr ⟨he, huc⟩
        · exact .inl (by omega)
      exact (hgap l.stamp.nanos (.inr ⟨rfl, hlc⟩) hup).elim
  apply hs
  obtain ⟨lt, lc⟩ := l
  obtain ⟨ut, uc⟩ := u
  obtain ⟨hlc, huc, hn⟩ := hcl
  simp only at hlc huc hn
  subst hlc huc
  exact ⟨lt, hl, by rw [hu]; congr 2; exact Stamp.eq_iff_nanos.2 hn⟩

theorem keysOf_sliver {r : TimeRange} {a b : Int} (h : keysOf r = .ok (a, b))
    (hs : r.IsSliver) : b < a := by
  obtain ⟨-, -, ha, hb⟩ := keysOf_eq_ok.1 h
  obtain ⟨t, hl, hu⟩ := hs
  obtain ⟨l, hl', hla⟩ := TimeRange.startKey_eq_ok ha
  obtain ⟨u, hu', hub⟩ := TimeRange.stopKey_eq_ok hb
  rw [hl] at hl'; rw [hu] at hu'
  cases hl'; cases hu'
  simp only [Bound.AdmitsFrom, Bound.AdmitsUpTo, Bool.false_eq_true, and_false, or_false] at hla hub
  have h₁ := hla t.nanos
  have h₂ := hub (t.nanos + 1)
  simp only [Int.lt_irrefl, false_iff, Int.not_le] at h₁ h₂
  omega

end Segment

end MediaTimeline
