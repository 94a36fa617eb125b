import Mathlib
import MediaTimeline.Time.Stamp

/-! The stored form of a timestamp against its exact value. -/

namespace MediaTimeline.Stamp.Words

variable {w w' : Words}

theorem bmod_word {n : Int} (h₁ : -2 ^ 63 ≤ n) (h₂ : n < 2 ^ 63) : n.bmod (2 ^ 64) = n :=
  Int.bmod_eq_of_le (by omega) (by omega)

theorem bmod_half {n : Int} (h₁ : -2 ^ 31 ≤ n) (h₂ : n < 2 ^ 31) : n.bmod (2 ^ 32) = n :=
  Int.bmod_eq_of_le (by omega) (by omega)

theorem eq_of_value_eq (hw : w.Normal) (hw' : w'.Normal) (h : w.value = w'.value) : w = w' := by
  obtain ⟨s, n⟩ := w
  obtain ⟨s', n'⟩ := w'
  simp only [Normal, value, nanosPerSecond, Nat.cast_ofNat] at hw hw' h
  have hs : s.toInt = s'.toInt := by omega
  have hn : n.toInt = n'.toInt := by omega
  rw [Int64.toInt_inj.1 hs, Int32.toInt_inj.1 hn]

theorem representable_value (hw : w.Normal) : Representable w.value := by
  have h₁ := w.sec.le_toInt
  have h₂ := w.sec.toInt_lt
  obtain ⟨hn₀, hn₁⟩ := hw
  simp only [Representable, value, int64Min, int64Max, nanosPerSecond, Nat.cast_ofNat] at hn₁ ⊢
  omega

theorem tdiv_tmod_second (n : Int) :
    n.tdiv 1000000000 * 1000000000 + n.tmod 1000000000 = n ∧
      -1000000000 < n.tmod 1000000000 ∧ n.tmod 1000000000 < 1000000000 := by
  rw [Int.tdiv_eq_ediv, Int.tmod_eq_emod]
  have hs : Int.sign 1000000000 = 1 := rfl
  have ha : Int.natAbs 1000000000 = 1000000000 := rfl
  rw [hs, ha]
  by_cases h : 0 ≤ n ∨ (1000000000 : Int) ∣ n
  · simp only [h, if_true, Nat.cast_zero]
    refine ⟨by omega, by omega, by omega⟩
  · simp only [h, if_false, Nat.cast_ofNat]
    refine ⟨by omega, by omega, by omega⟩

theorem ofNanosec_spec (n : Int64) : (ofNanosec n).Normal ∧ (ofNanosec n).value = n.toInt := by
  have hq : (n / 1000000000).toInt = n.toInt.tdiv 1000000000 :=
    Int64.toInt_div_of_ne_right _ _ (by decide)
  have hr : (n % 1000000000).toInt = n.toInt.tmod 1000000000 := Int64.toInt_mod _ _
  obtain ⟨hsum, hlo, hhi⟩ := tdiv_tmod_second n.toInt
  have h₁ := n.le_toInt
  have h₂ := n.toInt_lt
  have h0 : (0 : Int64).toInt = 0 := rfl
  have hs : (1000000000 : Int64).toInt = 1000000000 := rfl
  simp only [ofNanosec]
  split
  · -- a negative remainder borrows a second
    rename_i hlt
    rw [Int64.lt_iff_toInt_lt, hr, h0] at hlt
    simp only [Normal, value, Int64.toInt_sub, Int64.toInt_toInt32, Int64.toInt_add, hq, hr,
      nanosPerSecond, Int64.toInt_one, hs]
    simp (disch := omega) only [bmod_word, bmod_half]
    omega
  · rename_i hlt
    rw [Int64.lt_iff_toInt_lt, hr, h0] at hlt
    simp only [Normal, value, Int64.toInt_toInt32, hq, hr, nanosPerSecond]
    simp (disch := omega) only [bmod_half]
    omega

theorem count_constants :
    (Int64.maxValue / 1000000000 : Int64).toInt = 9223372036 ∧
      (Int64.minValue / 1000000000 - 1 : Int64).toInt = -9223372037 ∧
      (Int64.maxValue - Int64.maxValue / 1000000000 * 1000000000 : Int64).toInt = 854775807 ∧
      Int64.minValue.toInt = -2 ^ 63 ∧ (1000000000 : Int64).toInt = 1000000000 := by
  decide

theorem toNanosec_eq_ok (hw : w.Normal) (hv : IsInt64 w.value) :
    w.toNanosec = .ok (Int64.ofInt w.value) := by
  obtain ⟨s, n⟩ := w
  obtain ⟨hmax, hmin, hgap, hlow, hs⟩ := count_constants
  have hsize : Int64.size = 2 ^ 64 := rfl
  simp only [Normal, IsInt64, value, int64Min, int64Max, nanosPerSecond, Nat.cast_ofNat] at hw hv
  have hs₁ : -9223372037 ≤ s.toInt := by omega
  have hs₂ : s.toInt ≤ 9223372036 := by omega
  simp only [toNanosec]
  rw [if_neg (by simp only [Bool.or_eq_true, decide_eq_true_eq, Int64.lt_iff_toInt_lt, hmax, hmin]; omega),
    if_neg (by simp only [Bool.and_eq_true, decide_eq_true_eq, Int64.lt_iff_toInt_lt, ← Int64.toInt_inj,
      hmax, hgap, Int32.toInt_toInt64]; omega)]
  split_ifs with h₅ h₆
  · -- the least second: its count is below the least count only outside the range
    rw [← Int64.toInt_inj, hmin] at h₅
    rw [Int64.lt_iff_toInt_lt] at h₆
    simp only [Int64.toInt_sub, Int64.toInt_mul, Int64.toInt_add, Int32.toInt_toInt64, hlow,
      Int64.toInt_one, hs, h₅] at h₆
    simp (disch := omega) only [bmod_word] at h₆
    omega
  · rw [← Int64.toInt_inj, hmin] at h₅
    congr 1
    rw [← Int64.toInt_inj]
    simp only [Int64.toInt_sub, Int64.toInt_mul, Int64.toInt_add, Int32.toInt_toInt64,
      Int64.toInt_ofInt, value, hsize, nanosPerSecond, Nat.cast_ofNat, Int64.toInt_one, hs, h₅]
    simp (disch := omega) only [bmod_word]
    omega
  · rw [← Int64.toInt_inj, hmin] at h₅
    congr 1
    rw [← Int64.toInt_inj]
    simp only [Int64.toInt_mul, Int64.toInt_add, Int32.toInt_toInt64, Int64.toInt_ofInt, value,
      hsize, nanosPerSecond, Nat.cast_ofNat, hs]
    simp (disch := omega) only [bmod_word]

theorem toNanosec_eq_error (hw : w.Normal) (hv : ¬ IsInt64 w.value) :
    w.toNanosec = .error (.overflow w.toStamp) := by
  obtain ⟨s, n⟩ := w
  obtain ⟨hmax, hmin, hgap, hlow, hs⟩ := count_constants
  simp only [Normal, IsInt64, value, int64Min, int64Max, nanosPerSecond, Nat.cast_ofNat] at hw hv
  simp only [toNanosec]
  split_ifs with h₁ h₂ h₃ h₄
  · rfl
  · rfl
  · rfl
  · -- the least second with a count in range
    rw [← Int64.toInt_inj, hmin] at h₃
    rw [Int64.lt_iff_toInt_lt] at h₄
    simp only [Int64.toInt_sub, Int64.toInt_mul, Int64.toInt_add, Int32.toInt_toInt64, hlow,
      Int64.toInt_one, hs, h₃] at h₄
    simp (disch := omega) only [bmod_word] at h₄
    omega
  · -- any other second in range
    rw [← Int64.toInt_inj, hmin] at h₃
    simp only [Bool.or_eq_true, decide_eq_true_eq, Int64.lt_iff_toInt_lt, hmax, hmin] at h₁
    simp only [Bool.and_eq_true, decide_eq_true_eq, Int64.lt_iff_toInt_lt, ← Int64.toInt_inj,
      hmax, hgap, Int32.toInt_toInt64] at h₂
    omega

/-- The count succeeds exactly on values in the word's range, and is then the value itself. -/
theorem toNanosec_eq_ok_iff (hw : w.Normal) {v : Int64} :
    w.toNanosec = .ok v ↔ IsInt64 w.value ∧ v.toInt = w.value := by
  by_cases hv : IsInt64 w.value
  · have hexact : (Int64.ofInt w.value).toInt = w.value := by
      simp only [IsInt64, int64Min, int64Max] at hv
      exact Int64.toInt_ofInt_of_le (by omega) (by omega)
    rw [toNanosec_eq_ok hw hv, Except.ok.injEq, ← Int64.toInt_inj, hexact]
    exact ⟨fun h => ⟨hv, h.symm⟩, fun h => h.2.symm⟩
  · rw [toNanosec_eq_error hw hv]
    exact ⟨nofun, fun h => absurd h.1 hv⟩

theorem compare_eq (ha : w.Normal) (hb : w'.Normal) :
    w.compare w' = Ord.compare w.value w'.value := by
  obtain ⟨s, n⟩ := w
  obtain ⟨s', n'⟩ := w'
  simp only [Normal, nanosPerSecond, Nat.cast_ofNat] at ha hb
  simp only [Words.compare, value, nanosPerSecond, Nat.cast_ofNat, Int64.lt_iff_toInt_lt,
    Int32.lt_iff_toInt_lt]
  split_ifs with h₁ h₂ h₃ h₄
  · exact (compare_lt_iff_lt.2 (by omega)).symm
  · exact (compare_gt_iff_gt.2 (by omega)).symm
  · exact (compare_lt_iff_lt.2 (by omega)).symm
  · exact (compare_gt_iff_gt.2 (by omega)).symm
  · exact (compare_eq_iff_eq.2 (by omega)).symm

theorem toNanosec_ofNanosec (n : Int64) : (ofNanosec n).toNanosec = .ok n := by
  obtain ⟨hn, hv⟩ := ofNanosec_spec n
  have h₁ := n.le_toInt
  have h₂ := n.toInt_lt
  rw [toNanosec_eq_ok hn (by simp only [IsInt64, hv, int64Min, int64Max]; omega), hv,
    Int64.ofInt_toInt]

theorem ofNanosec_toNanosec {v : Int64} (hw : w.Normal) (h : w.toNanosec = .ok v) :
    ofNanosec v = w := by
  obtain ⟨-, hv⟩ := (toNanosec_eq_ok_iff hw).1 h
  obtain ⟨hn, hval⟩ := ofNanosec_spec v
  exact eq_of_value_eq hn hw (hval.trans hv)

/-- The nanosecond count of a normalized stored form is its exact value or an overflow, never a
wrapped word; every count has a normalized stored form with that value, the two conversions
undo each other, and stored forms compare as their values. -/
theorem nanosecond_count_is_exact :
    (∀ w : Words, w.Normal → ∀ v : Int64,
      (w.toNanosec = .ok v ↔ IsInt64 w.value ∧ v.toInt = w.value)) ∧
    (∀ w : Words, w.Normal → ¬ IsInt64 w.value → w.toNanosec = .error (.overflow w.toStamp)) ∧
    (∀ n : Int64, (ofNanosec n).Normal ∧ (ofNanosec n).value = n.toInt ∧
      (ofNanosec n).toNanosec = .ok n) ∧
    (∀ (w : Words) (v : Int64), w.Normal → w.toNanosec = .ok v → ofNanosec v = w) ∧
    ∀ w w' : Words, w.Normal → w'.Normal → w.compare w' = Ord.compare w.value w'.value :=
  ⟨fun _ hw _ => toNanosec_eq_ok_iff hw, fun _ hw hv => toNanosec_eq_error hw hv,
    fun n => ⟨(ofNanosec_spec n).1, (ofNanosec_spec n).2, toNanosec_ofNanosec n⟩,
    fun _ _ hw h => ofNanosec_toNanosec hw h, fun _ _ ha hb => compare_eq ha hb⟩

/-- The least second that still has a count: its last 145224192 nanoseconds. -/
theorem toNanosec_least_count :
    (⟨-9223372037, 145224192⟩ : Words).toNanosec = .ok Int64.minValue :=
  ((nanosecond_count_is_exact.1 ⟨-9223372037, 145224192⟩ (by decide) Int64.minValue).2
    ⟨by decide, by decide⟩)

end MediaTimeline.Stamp.Words
