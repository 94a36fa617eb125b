import MediaTimeline.Proofs.RangeMembership

/-! The order of ranges: containment, meets and joins. -/

namespace MediaTimeline

namespace Bound

def startCut (b : Bound) : Int := 2 * b.stamp.nanos + if b.closed then 0 else 1

def stopCut (b : Bound) : Int := 2 * b.stamp.nanos - if b.closed then 0 else 1

variable {a b : Bound} {n : Int}

theorem admitsFrom_iff_startCut : b.AdmitsFrom n ↔ b.startCut ≤ 2 * n := by
  unfold AdmitsFrom startCut
  cases b.closed
  · simp only [Bool.false_eq_true, and_false, or_false, if_false]
    omega
  · simp only [and_true, if_true]
    omega

theorem admitsUpTo_iff_stopCut : b.AdmitsUpTo n ↔ 2 * n ≤ b.stopCut := by
  unfold AdmitsUpTo stopCut
  cases b.closed
  · simp only [Bool.false_eq_true, and_false, or_false, if_false]
    omega
  · simp only [and_true, if_true]
    omega

theorem startCut_injective : Function.Injective startCut := by
  rintro ⟨⟨s⟩, c⟩ ⟨⟨s'⟩, c'⟩ h
  have hc : c = c' := by cases c <;> cases c' <;> simp [startCut] at h ⊢ <;> omega
  subst hc
  have hs : s = s' := by cases c <;> simp [startCut] at h <;> omega
  rw [hs]

theorem stopCut_injective : Function.Injective stopCut := by
  rintro ⟨⟨s⟩, c⟩ ⟨⟨s'⟩, c'⟩ h
  have hc : c = c' := by cases c <;> cases c' <;> simp [stopCut] at h ⊢ <;> omega
  subst hc
  have hs : s = s' := by cases c <;> simp [stopCut] at h <;> omega
  rw [hs]

theorem startCut_laterStart (a b : Bound) :
    (TimeRange.laterStart a b).startCut = max a.startCut b.startCut := by
  obtain ⟨⟨s⟩, c⟩ := a
  obtain ⟨⟨s'⟩, c'⟩ := b
  simp only [TimeRange.laterStart, Stamp.lt_iff_nanos]
  split_ifs <;> cases c <;> cases c' <;> simp [startCut] <;> omega

theorem startCut_earlierStart (a b : Bound) :
    (TimeRange.earlierStart a b).startCut = min a.startCut b.startCut := by
  obtain ⟨⟨s⟩, c⟩ := a
  obtain ⟨⟨s'⟩, c'⟩ := b
  simp only [TimeRange.earlierStart, Stamp.lt_iff_nanos]
  split_ifs <;> cases c <;> cases c' <;> simp [startCut] <;> omega

theorem stopCut_earlierStop (a b : Bound) :
    (TimeRange.earlierStop a b).stopCut = min a.stopCut b.stopCut := by
  obtain ⟨⟨s⟩, c⟩ := a
  obtain ⟨⟨s'⟩, c'⟩ := b
  simp only [TimeRange.earlierStop, Stamp.lt_iff_nanos]
  split_ifs <;> cases c <;> cases c' <;> simp [stopCut] <;> omega

theorem stopCut_laterStop (a b : Bound) :
    (TimeRange.laterStop a b).stopCut = max a.stopCut b.stopCut := by
  obtain ⟨⟨s⟩, c⟩ := a
  obtain ⟨⟨s'⟩, c'⟩ := b
  simp only [TimeRange.laterStop, Stamp.lt_iff_nanos]
  split_ifs <;> cases c <;> cases c' <;> simp [stopCut] <;> omega

end Bound

namespace TimeRange

def lowCut : Option Bound → WithBot Int
  | none => ⊥
  | some b => b.startCut

def highCut : Option Bound → WithTop Int
  | none => ⊤
  | some b => b.stopCut

@[simp] theorem lowCut_none : lowCut none = ⊥ := rfl
@[simp] theorem lowCut_some (b : Bound) : lowCut (some b) = b.startCut := rfl
@[simp] theorem highCut_none : highCut none = ⊤ := rfl
@[simp] theorem highCut_some (b : Bound) : highCut (some b) = b.stopCut := rfl

/-- The range covers the grid point `x`: it lies between the range's two cuts. -/
def Covers (r : TimeRange) (x : Int) : Prop :=
  lowCut r.lower ≤ x ∧ (x : WithTop Int) ≤ highCut r.upper

variable {x y : Option Bound} {r o c : TimeRange} {t : Stamp} {p : Int}

theorem lowCut_injective : Function.Injective lowCut := by
  rintro (_ | a) (_ | b) h
  · rfl
  · exact absurd h (WithBot.bot_ne_coe)
  · exact absurd h (WithBot.coe_ne_bot)
  · exact congrArg some (Bound.startCut_injective (WithBot.coe_inj.1 h))

theorem highCut_injective : Function.Injective highCut := by
  rintro (_ | a) (_ | b) h
  · rfl
  · exact absurd h (WithTop.top_ne_coe)
  · exact absurd h (WithTop.coe_ne_top)
  · exact congrArg some (Bound.stopCut_injective (WithTop.coe_inj.1 h))

theorem startWithin_iff : startWithin x y = true ↔ lowCut x ≤ lowCut y := by
  rcases x with _ | ⟨⟨s⟩, c⟩ <;> rcases y with _ | ⟨⟨s'⟩, c'⟩
  · simp [startWithin]
  · simp [startWithin]
  · simp [startWithin]
  · simp only [startWithin, lowCut_some, WithBot.coe_le_coe, Bound.startCut]
    cases c <;> cases c' <;> simp <;> omega

theorem stopWithin_iff : stopWithin x y = true ↔ highCut y ≤ highCut x := by
  rcases x with _ | ⟨⟨s⟩, c⟩ <;> rcases y with _ | ⟨⟨s'⟩, c'⟩
  · simp [stopWithin]
  · simp [stopWithin]
  · simp [stopWithin]
  · simp only [stopWithin, highCut_some, WithTop.coe_le_coe, Bound.stopCut]
    cases c <;> cases c' <;> simp <;> omega

theorem lowCut_meetEnds (x y : Option Bound) :
    lowCut (meetEnds laterStart x y) = max (lowCut x) (lowCut y) := by
  rcases x with _ | a <;> rcases y with _ | b
  · simp [meetEnds]
  · simp [meetEnds]
  · simp [meetEnds]
  · simp [meetEnds, Bound.startCut_laterStart]

theorem highCut_meetEnds (x y : Option Bound) :
    highCut (meetEnds earlierStop x y) = min (highCut x) (highCut y) := by
  rcases x with _ | a <;> rcases y with _ | b
  · simp [meetEnds]
  · simp [meetEnds]
  · simp [meetEnds]
  · simp [meetEnds, Bound.stopCut_earlierStop]

theorem lowCut_joinEnds (x y : Option Bound) :
    lowCut (joinEnds earlierStart x y) = min (lowCut x) (lowCut y) := by
  rcases x with _ | a <;> rcases y with _ | b
  · simp [joinEnds]
  · simp [joinEnds]
  · simp [joinEnds]
  · simp [joinEnds, Bound.startCut_earlierStart]

theorem highCut_joinEnds (x y : Option Bound) :
    highCut (joinEnds laterStop x y) = max (highCut x) (highCut y) := by
  rcases x with _ | a <;> rcases y with _ | b
  · simp [joinEnds]
  · simp [joinEnds]
  · simp [joinEnds]
  · simp [joinEnds, Bound.stopCut_laterStop]

/-! Emptiness and the points a range covers. -/

/-- The points a range covers are those at or past its start cut and at or before its end cut. -/
theorem covers_iff :
    r.Covers p ↔ (∀ a ∈ r.lower, a.startCut ≤ p) ∧ ∀ b ∈ r.upper, p ≤ b.stopCut := by
  obtain ⟨_ | a, _ | b⟩ := r <;> simp [Covers]

theorem isEmpty_eq_false_iff : r.isEmpty = false ↔ ∃ p, r.Covers p := by
  simp only [covers_iff]
  obtain ⟨l, u⟩ := r
  rcases l with _ | ⟨⟨s⟩, c⟩ <;> rcases u with _ | ⟨⟨s'⟩, c'⟩
  · exact ⟨fun _ => ⟨0, by simp⟩, fun _ => rfl⟩
  · exact ⟨fun _ => ⟨Bound.stopCut ⟨⟨s'⟩, c'⟩, by simp⟩, fun _ => rfl⟩
  · exact ⟨fun _ => ⟨Bound.startCut ⟨⟨s⟩, c⟩, by simp⟩, fun _ => rfl⟩
  · -- both ends present: the start's own cut is covered unless the end cuts below it
    simp only [Option.mem_def, Option.some.injEq, forall_eq']
    constructor
    · intro h
      refine ⟨Bound.startCut ⟨⟨s⟩, c⟩, le_rfl, ?_⟩
      cases c <;> cases c' <;> simp [isEmpty, Bound.startCut, Bound.stopCut] at h ⊢ <;> omega
    · rintro ⟨p, hl, hu⟩
      cases c <;> cases c' <;> simp [isEmpty, Bound.startCut, Bound.stopCut] at hl hu ⊢ <;> omega

theorem not_covers_of_isEmpty (h : r.isEmpty = true) : ¬ r.Covers p := fun hp => by
  rw [isEmpty_eq_false_iff.2 ⟨p, hp⟩] at h
  cases h

theorem not_covers_never (p : Int) : ¬ never.Covers p := not_covers_of_isEmpty isEmpty_never

theorem covers_make {l u : Option Bound} : (make l u).Covers p ↔ (TimeRange.mk l u).Covers p := by
  unfold make
  split_ifs with h
  · exact ⟨fun hp => absurd hp (not_covers_never p), fun hp => absurd hp (not_covers_of_isEmpty h)⟩
  · rfl

theorem make_of_isEmpty_eq_false {l u : Option Bound} (h : (TimeRange.mk l u).isEmpty = false) :
    make l u = ⟨l, u⟩ := by
  simp [make, h]

theorem eq_never_of_make {l u : Option Bound} (h : (make l u).isEmpty = true) : make l u = never := by
  unfold make at h ⊢
  split_ifs with he
  · rfl
  · rw [if_neg he] at h
    exact absurd h he

theorem contains_make_self (c r : TimeRange) : c.contains (make r.lower r.upper) = c.contains r := by
  cases he : r.isEmpty
  · rw [make_of_isEmpty_eq_false he]
  · simp [make, he, contains]

theorem mem_iff_covers : t ∈ r ↔ r.Covers (2 * t.nanos) := by
  simp only [mem_iff_admits, Admits, covers_iff, Bound.admitsFrom_iff_startCut,
    Bound.admitsUpTo_iff_stopCut]

theorem not_mem_never (t : Stamp) : t ∉ never := fun h => not_covers_never _ (mem_iff_covers.1 h)

/-! Containment. -/

/-- A range holds a non-empty one exactly when its cuts lie outside the other's. -/
theorem contains_iff_cuts :
    r.contains o = true ↔
      (o.isEmpty = false → lowCut r.lower ≤ lowCut o.lower ∧ highCut o.upper ≤ highCut r.upper) := by
  cases ho : o.isEmpty
  · rw [contains_iff ho, startWithin_iff, stopWithin_iff]
    refine ⟨fun h _ => h.2, fun h => ⟨?_, h rfl⟩⟩
    obtain ⟨p, hlo, hhi⟩ := isEmpty_eq_false_iff.1 ho
    obtain ⟨hl, hu⟩ := h rfl
    exact isEmpty_eq_false_iff.2 ⟨p, hl.trans hlo, hhi.trans hu⟩
  · simp [contains, ho]

/-- A range that covers every point another covers, one of which is `p`, starts no later. -/
theorem lowCut_le_of_covers (h : ∀ q, o.Covers q → r.Covers q) (hp : o.Covers p) :
    lowCut r.lower ≤ lowCut o.lower := by
  rcases hr : r.lower with _ | a
  · exact bot_le
  rcases hol : o.lower with _ | d
  · -- `o` has no start, so it covers a point below the cut of `r`'s start
    have hq := (h (min p (a.startCut - 1))
      ⟨by simp [hol], (WithTop.coe_le_coe.2 (min_le_left _ _)).trans hp.2⟩).1
    rw [hr, lowCut_some, WithBot.coe_le_coe, le_min_iff] at hq
    omega
  · have hd : d.startCut ≤ p := by simpa [hol] using hp.1
    have hq := (h d.startCut ⟨by simp [hol], (WithTop.coe_le_coe.2 hd).trans hp.2⟩).1
    rwa [hr] at hq

/-- A range that covers every point another covers, one of which is `p`, ends no earlier. -/
theorem highCut_le_of_covers (h : ∀ q, o.Covers q → r.Covers q) (hp : o.Covers p) :
    highCut o.upper ≤ highCut r.upper := by
  rcases hr : r.upper with _ | a
  · exact le_top
  rcases hou : o.upper with _ | d
  · have hq := (h (max p (a.stopCut + 1))
      ⟨hp.1.trans (WithBot.coe_le_coe.2 (le_max_left _ _)), by simp [hou]⟩).2
    rw [hr, highCut_some, WithTop.coe_le_coe, max_le_iff] at hq
    omega
  · have hd : p ≤ d.stopCut := by simpa [hou] using hp.2
    have hq := (h d.stopCut ⟨hp.1.trans (WithBot.coe_le_coe.2 hd), by simp [hou]⟩).2
    rwa [hr] at hq

theorem contains_iff_covers : r.contains o = true ↔ ∀ p, o.Covers p → r.Covers p := by
  rw [contains_iff_cuts]
  constructor
  · rintro h p ⟨hlo, hhi⟩
    obtain ⟨hl, hu⟩ := h (isEmpty_eq_false_iff.2 ⟨p, hlo, hhi⟩)
    exact ⟨hl.trans hlo, hhi.trans hu⟩
  · intro h ho
    obtain ⟨p, hp⟩ := isEmpty_eq_false_iff.1 ho
    exact ⟨lowCut_le_of_covers h hp, highCut_le_of_covers h hp⟩

/-! Meets and joins. -/

theorem covers_intersect : (r.intersect o).Covers p ↔ r.Covers p ∧ o.Covers p := by
  unfold intersect
  split_ifs with he
  · -- one of the two is empty and covers nothing
    refine ⟨fun hp => absurd hp (not_covers_never p), fun ⟨hr, ho⟩ => ?_⟩
    rcases Bool.or_eq_true_iff.1 he with he | he
    · exact absurd hr (not_covers_of_isEmpty he)
    · exact absurd ho (not_covers_of_isEmpty he)
  · rw [covers_make]
    simp only [Covers, lowCut_meetEnds, highCut_meetEnds, max_le_iff, le_min_iff]
    exact and_and_and_comm

theorem intersect_contains_iff (r o c : TimeRange) :
    (r.intersect o).contains c = true ↔ r.contains c = true ∧ o.contains c = true := by
  simp only [contains_iff_covers, covers_intersect]
  exact ⟨fun h => ⟨fun p hp => (h p hp).1, fun p hp => (h p hp).2⟩,
    fun h p hp => ⟨h.1 p hp, h.2 p hp⟩⟩

theorem isEmpty_join (hr : r.isEmpty = false) :
    (TimeRange.mk (joinEnds earlierStart r.lower o.lower)
      (joinEnds laterStop r.upper o.upper)).isEmpty = false := by
  obtain ⟨p, hl, hu⟩ := isEmpty_eq_false_iff.1 hr
  refine isEmpty_eq_false_iff.2 ⟨p, ?_, ?_⟩
  · simpa only [lowCut_joinEnds] using min_le_of_left_le hl
  · simpa only [highCut_joinEnds] using le_max_of_le_left hu

theorem contains_extend_iff (r o c : TimeRange) :
    c.contains (r.extend o) = true ↔ c.contains r = true ∧ c.contains o = true := by
  unfold extend
  split_ifs with hr ho
  · -- an empty range adds nothing to a join
    rw [contains_make_self]
    simp [contains, hr]
  · rw [contains_make_self]
    simp [contains, ho]
  · simp only [Bool.not_eq_true] at hr ho
    rw [make_of_isEmpty_eq_false (isEmpty_join hr), contains_iff_cuts, contains_iff_cuts,
      contains_iff_cuts]
    simp only [hr, ho, isEmpty_join hr, forall_const, lowCut_joinEnds, highCut_joinEnds,
      le_min_iff, max_le_iff]
    exact and_and_and_comm

theorem meetEnds_laterStart_comm (x y : Option Bound) :
    meetEnds laterStart x y = meetEnds laterStart y x :=
  lowCut_injective (by rw [lowCut_meetEnds, lowCut_meetEnds, max_comm])

theorem meetEnds_earlierStop_comm (x y : Option Bound) :
    meetEnds earlierStop x y = meetEnds earlierStop y x :=
  highCut_injective (by rw [highCut_meetEnds, highCut_meetEnds, min_comm])

theorem joinEnds_earlierStart_comm (x y : Option Bound) :
    joinEnds earlierStart x y = joinEnds earlierStart y x :=
  lowCut_injective (by rw [lowCut_joinEnds, lowCut_joinEnds, min_comm])

theorem joinEnds_laterStop_comm (x y : Option Bound) :
    joinEnds laterStop x y = joinEnds laterStop y x :=
  highCut_injective (by rw [highCut_joinEnds, highCut_joinEnds, max_comm])

theorem intersect_comm (r o : TimeRange) : r.intersect o = o.intersect r := by
  simp only [intersect, Bool.or_comm, meetEnds_laterStart_comm r.lower,
    meetEnds_earlierStop_comm r.upper]

theorem extend_comm (r o : TimeRange) : r.extend o = o.extend r := by
  unfold extend
  cases hr : r.isEmpty <;> cases ho : o.isEmpty
  · simp [joinEnds_earlierStart_comm r.lower, joinEnds_laterStop_comm r.upper]
  · rfl
  · rfl
  · -- both empty: each normalizes to `never`
    simp [make, hr, ho]

theorem equiv_self (r : TimeRange) : r.equiv r = true := by
  simp [equiv]

theorem equiv_iff_eq (ho : o.isEmpty = false) : r.equiv o = true ↔ r = o := by
  constructor
  · intro h
    cases hr : r.isEmpty <;> simp_all [equiv]
  · rintro rfl
    exact equiv_self r

theorem meetEnds_laterStart_of_startWithin (h : startWithin x y = true) :
    meetEnds laterStart x y = y :=
  lowCut_injective (by rw [lowCut_meetEnds, max_eq_right (startWithin_iff.1 h)])

theorem meetEnds_earlierStop_of_stopWithin (h : stopWithin x y = true) :
    meetEnds earlierStop x y = y :=
  highCut_injective (by rw [highCut_meetEnds, min_eq_right (stopWithin_iff.1 h)])

theorem intersect_eq_of_contains (h : r.contains o = true) (ho : o.isEmpty = false) :
    r.intersect o = o := by
  obtain ⟨hr, hs, he⟩ := (contains_iff ho).1 h
  simp only [intersect, hr, ho, Bool.or_self, Bool.false_eq_true, if_false,
    meetEnds_laterStart_of_startWithin hs, meetEnds_earlierStop_of_stopWithin he]
  exact make_of_isEmpty_eq_false ho

theorem contains_iff_intersect_equiv (r o : TimeRange) :
    r.contains o = true ↔ (r.intersect o).equiv o = true := by
  cases ho : o.isEmpty
  · rw [equiv_iff_eq ho]
    refine ⟨fun h => intersect_eq_of_contains h ho, fun h => ?_⟩
    rw [← h]
    exact contains_intersect r o
  · simp [contains, equiv, intersect, ho]

/-! Normal ranges. -/

def Representable (r : TimeRange) : Prop :=
  (∀ b ∈ r.lower, Stamp.Representable b.stamp.nanos) ∧ ∀ b ∈ r.upper, Stamp.Representable b.stamp.nanos

/-- A range as the library builds it: in the form `make` gives, where the empty range is `never`,
with every end an instant whose seconds fit 64 bits. -/
structure Normal (r : TimeRange) : Prop where
  eq_never : r.isEmpty = true → r = never
  representable : r.Representable

theorem representable_never : never.Representable :=
  ⟨by simp [never, Stamp.zero, Stamp.Representable, int64Min, int64Max, nanosPerSecond],
    by simp [never, Stamp.zero, Stamp.Representable, int64Min, int64Max, nanosPerSecond]⟩

theorem representable_make {l u : Option Bound} (h : (TimeRange.mk l u).Representable) :
    (make l u).Representable := by
  unfold make
  split_ifs
  · exact representable_never
  · exact h

theorem normal_make {l u : Option Bound} (h : (TimeRange.mk l u).Representable) :
    (make l u).Normal :=
  ⟨eq_never_of_make, representable_make h⟩

theorem stamp_of_combined {f : Bound → Bound → Bound}
    (hf : f = laterStart ∨ f = earlierStop ∨ f = earlierStart ∨ f = laterStop) (a b : Bound) :
    (f a b).stamp = a.stamp ∨ (f a b).stamp = b.stamp := by
  rcases hf with rfl | rfl | rfl | rfl <;>
    simp only [laterStart, earlierStop, earlierStart, laterStop] <;> split_ifs <;> simp

theorem forall_mem_joinEnds {P : Bound → Prop} {f : Bound → Bound → Bound}
    (hf : ∀ a b, P a → P b → P (f a b)) (hx : ∀ a ∈ x, P a) (hy : ∀ b ∈ y, P b) :
    ∀ c ∈ joinEnds f x y, P c := by
  rcases x with _ | a <;> rcases y with _ | b
  · simp [joinEnds]
  · simp [joinEnds]
  · simp [joinEnds]
  · simp only [joinEnds, Option.mem_def, Option.some.injEq, forall_eq']
    exact hf a b (hx a rfl) (hy b rfl)

theorem representable_combined {f : Bound → Bound → Bound}
    (hf : f = laterStart ∨ f = earlierStop ∨ f = earlierStart ∨ f = laterStop) (a b : Bound)
    (ha : Stamp.Representable a.stamp.nanos) (hb : Stamp.Representable b.stamp.nanos) :
    Stamp.Representable (f a b).stamp.nanos := by
  rcases stamp_of_combined hf a b with h | h <;> rw [h] <;> assumption

theorem Normal.intersect (hr : r.Normal) (ho : o.Normal) : (r.intersect o).Normal := by
  unfold TimeRange.intersect
  split_ifs
  · exact ⟨fun _ => rfl, representable_never⟩
  · refine normal_make ⟨forall_mem_meetEnds ?_ hr.2.1 ho.2.1, forall_mem_meetEnds ?_ hr.2.2 ho.2.2⟩
    · exact representable_combined (.inl rfl)
    · exact representable_combined (.inr (.inl rfl))

theorem Normal.extend (hr : r.Normal) (ho : o.Normal) : (r.extend o).Normal := by
  unfold TimeRange.extend
  split_ifs
  · exact normal_make ho.2
  · exact normal_make hr.2
  · refine normal_make ⟨forall_mem_joinEnds ?_ hr.2.1 ho.2.1, forall_mem_joinEnds ?_ hr.2.2 ho.2.2⟩
    · exact representable_combined (.inr (.inr (.inl rfl)))
    · exact representable_combined (.inr (.inr (.inr rfl)))

/-! Instants. -/

theorem mem_intersect : t ∈ r.intersect o ↔ t ∈ r ∧ t ∈ o := by
  simp only [mem_iff_covers, covers_intersect]

theorem mem_after (r : TimeRange) (t : Stamp) :
    t ∈ r.after ↔ r.isEmpty = false ∧ ∃ u, r.upper = some u ∧
      (u.stamp < t ∨ (u.stamp = t ∧ u.closed = false)) := by
  cases he : r.isEmpty
  · rcases hu : r.upper with _ | u
    · simp [after, he, hu, not_mem_never]
    · rw [after_eq he hu, mem_iff_admits]
      cases hc : u.closed <;> simp [Admits, Bound.AdmitsFrom, Stamp.eq_iff_nanos, hc]
  · simp [after, he, not_mem_never]

/-- Containment orders ranges as a lattice orders its elements: a range lies in a meet exactly
when it lies in both ranges, and a join in a range exactly when both ranges do; a range holds
another exactly when its meet with it is the other; meets and joins of normal ranges are normal,
and the order of their arguments makes no difference; an instant lies in a meet exactly when it
lies in both ranges, and past a range exactly when the range holds something, has an end and
the instant lies beyond it. -/
theorem interval_lattice_laws :
    (∀ a b c : TimeRange,
      (a.intersect b).contains c = true ↔ a.contains c = true ∧ b.contains c = true) ∧
    (∀ a b c : TimeRange,
      c.contains (a.extend b) = true ↔ c.contains a = true ∧ c.contains b = true) ∧
    (∀ a b : TimeRange, a.contains b = true ↔ (a.intersect b).equiv b = true) ∧
    (∀ a b : TimeRange, a.Normal → b.Normal → (a.intersect b).Normal ∧ (a.extend b).Normal) ∧
    (∀ a b : TimeRange,
      (a.intersect b).equiv (b.intersect a) = true ∧ (a.extend b).equiv (b.extend a) = true) ∧
    (∀ (a b : TimeRange) (t : Stamp), t ∈ a.intersect b ↔ t ∈ a ∧ t ∈ b) ∧
    ∀ (a : TimeRange) (t : Stamp), t ∈ a.after ↔ a.isEmpty = false ∧
      ∃ u, a.upper = some u ∧ (u.stamp < t ∨ (u.stamp = t ∧ u.closed = false)) :=
  ⟨intersect_contains_iff, contains_extend_iff, contains_iff_intersect_equiv,
    fun _ _ ha hb => ⟨ha.intersect hb, ha.extend hb⟩,
    fun a b => ⟨intersect_comm a b ▸ equiv_self _, extend_comm a b ▸ equiv_self _⟩,
    fun _ _ _ => mem_intersect, mem_after⟩

end TimeRange

end MediaTimeline
