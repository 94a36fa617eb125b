import Mathlib
import MediaTimeline.Proofs.CalmRun

/-! Packing object ids into cleanup batches. -/

namespace MediaTimeline.Cleanup

/-! Halving a run and cutting ids into runs. -/

theorem ne_nil_of_mem_halve {cap : Int} {run : List String} :
    ∀ b ∈ halve cap run, run ≠ [] → b ≠ [] := by
  fun_induction halve cap run with
  | case1 run _ =>
    intro b hb hrun
    rw [List.mem_singleton] at hb
    exact hb ▸ hrun
  | case2 run hbig ih₁ ih₂ =>
    intro b hb _
    have hlen : 2 ≤ run.length := by omega
    rcases List.mem_append.1 hb with hb | hb
    · exact ih₁ b hb (List.ne_nil_of_length_pos (by simp; omega))
    · exact ih₂ b hb (List.ne_nil_of_length_pos (by simp; omega))

theorem fits_of_mem_halve {cap : Int} {run : List String} :
    ∀ b ∈ halve cap run, b.length ≤ 1 ∨ (arraySize b : Int) ≤ cap := by
  fun_induction halve cap run with
  | case1 run hkeep =>
    intro b hb
    rw [List.mem_singleton] at hb
    exact hb ▸ hkeep
  | case2 run _ ih₁ ih₂ =>
    intro b hb
    rcases List.mem_append.1 hb with hb | hb
    · exact ih₁ b hb
    · exact ih₂ b hb

theorem ne_nil_of_mem_runs {size : Nat} {ids : List String} : ∀ r ∈ runs size ids, r ≠ [] := by
  fun_induction runs size ids with
  | case1 => simp
  | case2 ids h hne =>
    intro r hr
    rw [List.mem_singleton] at hr
    exact hr ▸ hne
  | case3 ids h ih =>
    intro r hr
    rcases List.mem_cons.1 hr with rfl | hr
    · -- a positive size takes at least the first id
      simp only [not_or] at h
      simpa [List.take_eq_nil_iff] using h
    · exact ih r hr

/-! The cap and the batches. -/

theorem capOf_pos (cap : Int) : 0 < if cap ≤ 0 then defaultMessageSize else cap := by
  split_ifs with h
  · decide
  · omega

/-- Whatever the batch size came out as, the batches are the runs of that size, each halved
to the cap packing works with. -/
theorem pack_eq_ok {ids : List String} {cap : Int} {bs : List (List String)}
    (h : pack ids cap = .ok bs) :
    ∃ size, bs = (runs size ids).flatMap (halve (if cap ≤ 0 then defaultMessageSize else cap)) := by
  unfold pack at h
  by_cases hn : ids = []
  · rw [if_pos hn] at h
    cases h
    exact ⟨0, by simp [hn, runs]⟩
  · -- past the two refusals of the batch count, the batches are the halved runs
    rw [if_neg hn] at h
    generalize (if cap ≤ 0 then defaultMessageSize else cap) = c at h ⊢
    dsimp only at h
    split_ifs at h
    exact ⟨_, (Except.ok.inj h).symm⟩

theorem mem_pack {ids : List String} {cap : Int} {bs : List (List String)}
    (h : pack ids cap = .ok bs) {b : List String} (hb : b ∈ bs) :
    b ≠ [] ∧
      (b.length = 1 ∨ (arraySize b : Int) ≤ if cap ≤ 0 then defaultMessageSize else cap) := by
  obtain ⟨size, rfl⟩ := pack_eq_ok h
  obtain ⟨r, hr, hbr⟩ := List.mem_flatMap.1 hb
  have hne := ne_nil_of_mem_halve b hbr (ne_nil_of_mem_runs r hr)
  refine ⟨hne, ?_⟩
  rcases fits_of_mem_halve b hbr with hlen | hfit
  · exact .inl (by have := List.length_pos_of_ne_nil hne; omega)
  · exact .inr hfit

/-- Packing is a partition of the ids in order into batches that are not empty, each of which
holds a single id or has an array within the cap (the default cap for none or less); no ids pack
into no batches. -/
theorem pack_partitions_within_cap (ids : List String) (cap : Int) (bs : List (List String))
    (h : pack ids cap = .ok bs) :
    pack [] cap = .ok [] ∧ bs.flatten = ids ∧
      ∀ b ∈ bs, b ≠ [] ∧
        (b.length = 1 ∨ (arraySize b : Int) ≤ if cap ≤ 0 then defaultMessageSize else cap) :=
  ⟨rfl, flatten_of_pack h, fun _ hb => mem_pack h hb⟩

/-- Four ids of unequal lengths under a cap of 12: the array of all of them takes 24 bytes, so two
runs of two; the first, at 16 bytes, is halved, and its long id fills a batch alone. -/
theorem pack_partitions_within_cap_uneven :
    pack ["aaaaaaaa", "b", "c", "d"] 12 = .ok [["aaaaaaaa"], ["b"], ["c", "d"]] ∧
      pack [] 12 = .ok [] ∧ [["aaaaaaaa"], ["b"], ["c", "d"]].flatten = ["aaaaaaaa", "b", "c", "d"] ∧
      ∀ b ∈ [["aaaaaaaa"], ["b"], ["c", "d"]], b ≠ [] ∧
        (b.length = 1 ∨ (arraySize b : Int) ≤ if (12 : Int) ≤ 0 then defaultMessageSize else 12) :=
  have h : pack ["aaaaaaaa", "b", "c", "d"] 12 = .ok [["aaaaaaaa"], ["b"], ["c", "d"]] := by
    decide +kernel
  ⟨h, pack_partitions_within_cap _ _ _ h⟩

/-! The batch count in 64-bit arithmetic. -/

theorem wrap64_of_lt {x : Int} (h₀ : -2 ^ 63 ≤ x) (h₁ : x < 2 ^ 63) : wrap64 x = x := by
  unfold wrap64
  omega

theorem wrap64_of_overflow {x : Int} (h₀ : 2 ^ 63 ≤ x) (h₁ : x < 2 ^ 64) : wrap64 x = x - 2 ^ 64 := by
  unfold wrap64
  omega

theorem ceil_div_bounds (x : Int) {c : Int} (hc : 0 < c) :
    ((x + c - 1) / c - 1) * c < x ∧ x ≤ (x + c - 1) / c * c := by
  have hlow := Int.ediv_mul_le (x + c - 1) hc.ne'
  have hhigh := Int.lt_ediv_add_one_mul_self (x + c - 1) hc
  constructor <;> nlinarith

theorem one_le_ceil_div {x c : Int} (hc : 0 < c) (hx : 1 ≤ x) : 1 ≤ (x + c - 1) / c :=
  Int.le_ediv_of_mul_le hc (by omega)

theorem batchCount_of_fits {t c : Int} (ht : 0 ≤ t) (hc : 0 < c) (hfit : t + c ≤ 2 ^ 63) :
    (wrap64 (t + c - 1)).tdiv c = (t + c - 1) / c := by
  rw [wrap64_of_lt (by omega) (by omega), Int.tdiv_eq_ediv_of_nonneg (by omega)]

/-- A sum past 63 bits, of two 64-bit integers, wraps below zero, and the batch count with it. -/
theorem batchCount_nonpos_of_overflow {t c : Int} (ht : t < 2 ^ 63) (hc : 0 < c) (hc' : c < 2 ^ 63)
    (hover : 2 ^ 63 < t + c) : (wrap64 (t + c - 1)).tdiv c ≤ 0 := by
  rw [wrap64_of_overflow (by omega) (by omega)]
  have hneg : t + c - 1 - 2 ^ 64 = -(2 ^ 64 - (t + c - 1)) := by ring
  rw [hneg, Int.neg_tdiv]
  exact Int.neg_nonpos_of_nonneg (Int.tdiv_nonneg (by omega) hc.le)

section Count

variable {ids : List String} {cap c : Int}

theorem pack_of_count_pos (hne : ids ≠ []) (hc : c = if cap ≤ 0 then defaultMessageSize else cap)
    (hk : 0 < (wrap64 ((arraySize ids : Int) + c - 1)).tdiv c) :
    pack ids cap = .ok ((runs ((((ids.length : Int) + (wrap64 ((arraySize ids : Int) + c - 1)).tdiv c
      - 1) / (wrap64 ((arraySize ids : Int) + c - 1)).tdiv c).toNat) ids).flatMap (halve c)) := by
  rw [pack, if_neg hne, ← hc]
  dsimp only
  rw [if_neg (by omega), if_neg (by omega)]

theorem pack_error_of_count_nonpos (hne : ids ≠ [])
    (hc : c = if cap ≤ 0 then defaultMessageSize else cap)
    (hk : (wrap64 ((arraySize ids : Int) + c - 1)).tdiv c ≤ 0) : ∃ e, pack ids cap = .error e := by
  rw [pack, if_neg hne, ← hc]
  dsimp only
  split_ifs
  · exact ⟨_, rfl⟩
  · exact ⟨_, rfl⟩
  · omega

end Count

/-- Packing succeeds exactly when the array of the ids and the cap it works with stay within
2^63, for a cap and an array size that are 64-bit integers. Then the sum the batch count is
computed from does not wrap: the count is the array size over the cap rounded up, at least one,
the batch size is the number of ids over the count rounded up, at least one too, and the batches
are the runs of that size, each halved to the cap. -/
theorem pack_batch_count_exact_iff_fits (ids : List String) (cap c : Int) (hne : ids ≠ [])
    (hcap : IsInt64 cap) (hsize : IsInt64 (arraySize ids))
    (hc : c = if cap ≤ 0 then defaultMessageSize else cap) :
    ((arraySize ids : Int) + c ≤ 2 ^ 63 ↔ ∃ bs, pack ids cap = .ok bs) ∧
      ((arraySize ids : Int) + c ≤ 2 ^ 63 →
        ∃ count size : Int,
          (wrap64 ((arraySize ids : Int) + c - 1)).tdiv c = count ∧
          1 ≤ count ∧ (count - 1) * c < arraySize ids ∧ arraySize ids ≤ count * c ∧
          1 ≤ size ∧ (size - 1) * count < ids.length ∧ ids.length ≤ size * count ∧
          pack ids cap = .ok ((runs size.toNat ids).flatMap (halve c))) := by
  have hc0 : 0 < c := hc ▸ capOf_pos cap
  have hcmax : c < 2 ^ 63 := by
    rw [hc]
    unfold IsInt64 int64Max at hcap
    split_ifs
    · unfold defaultMessageSize
      omega
    · omega
  have ht : 2 ≤ arraySize ids := by rw [arraySize_eq]; omega
  have htmax : (arraySize ids : Int) < 2 ^ 63 := by unfold IsInt64 int64Max at hsize; omega
  have hn : 1 ≤ (ids.length : Int) := by
    have := List.length_pos_of_ne_nil hne
    omega
  -- within 63 bits the count and the size are the rounded-up quotients, and both are positive
  have hfits : (arraySize ids : Int) + c ≤ 2 ^ 63 →
      ∃ count size : Int,
        (wrap64 ((arraySize ids : Int) + c - 1)).tdiv c = count ∧
        1 ≤ count ∧ (count - 1) * c < arraySize ids ∧ arraySize ids ≤ count * c ∧
        1 ≤ size ∧ (size - 1) * count < ids.length ∧ ids.length ≤ size * count ∧
        pack ids cap = .ok ((runs size.toNat ids).flatMap (halve c)) := by
    intro hfit
    have hk := batchCount_of_fits (by omega) hc0 hfit
    obtain ⟨hk₁, hk₂⟩ := ceil_div_bounds (arraySize ids) hc0
    have hpos := one_le_ceil_div hc0 (by omega : 1 ≤ (arraySize ids : Int))
    obtain ⟨hs₁, hs₂⟩ :=
      ceil_div_bounds (ids.length) (by omega : 0 < ((arraySize ids : Int) + c - 1) / c)
    refine ⟨_, _, hk, hpos, hk₁, hk₂, one_le_ceil_div (by omega) hn, hs₁, hs₂, ?_⟩
    rw [pack_of_count_pos hne hc (by omega), hk]
  refine ⟨⟨fun hfit => ?_, fun ⟨bs, hbs⟩ => ?_⟩, hfits⟩
  · obtain ⟨_, _, -, -, -, -, -, -, -, hpack⟩ := hfits hfit
    exact ⟨_, hpack⟩
  · -- past 63 bits the count is zero or less, and packing fails
    by_contra hover
    obtain ⟨e, he⟩ := pack_error_of_count_nonpos hne hc
      (batchCount_nonpos_of_overflow htmax hc0 hcmax (by omega))
    rw [he] at hbs
    cases hbs

/-- A single id under the largest cap that still packs: its array of five bytes and the cap
make exactly 2^63. -/
theorem pack_batch_count_exact_iff_fits_edge :
    ["a"] ≠ [] ∧ IsInt64 9223372036854775803 ∧ IsInt64 (arraySize ["a"]) ∧
      (9223372036854775803 : Int) = (if (9223372036854775803 : Int) ≤ 0 then defaultMessageSize
        else 9223372036854775803) ∧
      (((arraySize ["a"] : Int) + 9223372036854775803 ≤ 2 ^ 63 ↔
          ∃ bs, pack ["a"] 9223372036854775803 = .ok bs) ∧
        ((arraySize ["a"] : Int) + 9223372036854775803 ≤ 2 ^ 63 →
          ∃ count size : Int,
            (wrap64 ((arraySize ["a"] : Int) + 9223372036854775803 - 1)).tdiv 9223372036854775803 =
              count ∧
            1 ≤ count ∧ (count - 1) * 9223372036854775803 < arraySize ["a"] ∧
            arraySize ["a"] ≤ count * 9223372036854775803 ∧
            1 ≤ size ∧ (size - 1) * count < ["a"].length ∧ ["a"].length ≤ size * count ∧
            pack ["a"] 9223372036854775803 =
              .ok ((runs size.toNat ["a"]).flatMap (halve 9223372036854775803)))) :=
  ⟨List.cons_ne_nil _ _, by decide, by decide, by decide,
    pack_batch_count_exact_iff_fits ["a"] 9223372036854775803 9223372036854775803 (List.cons_ne_nil _ _)
      (by decide) (by decide) (by decide)⟩

/-- A single id under the largest cap: the sum wraps, the count comes out zero, and the batch size
would be divided by it. -/
theorem pack_wraps_at_largest_cap : pack ["a"] int64Max = .error .divideByZero := by
  decide +kernel

end MediaTimeline.Cleanup
