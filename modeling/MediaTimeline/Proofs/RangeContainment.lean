import Mathlib.Tactic.SplitIfs
import MediaTimeline.Proofs.RangeKeys

/-! Containment of ranges. -/

namespace MediaTimeline

namespace TimeRange

variable {a b c : Option Bound} {r o p : TimeRange}

theorem startWithin_trans (h₁ : startWithin a b = true) (h₂ : startWithin b c = true) :
    startWithin a c = true := by
  rcases a with _ | ⟨⟨ta⟩, ca⟩ <;> rcases b with _ | ⟨⟨tb⟩, cb⟩ <;> rcases c with _ | ⟨⟨tc⟩, cc⟩ <;>
    simp_all [startWithin]
  rcases h₁ with h₁ | ⟨rfl, h₁⟩ <;> rcases h₂ with h₂ | ⟨rfl, h₂⟩
  · exact .inl (by omega)
  · exact .inl h₁
  · exact .inl h₂
  · exact .inr ⟨rfl, by cases cb <;> simp_all⟩

theorem stopWithin_trans (h₁ : stopWithin a b = true) (h₂ : stopWithin b c = true) :
    stopWithin a c = true := by
  rcases a with _ | ⟨⟨ta⟩, ca⟩ <;> rcases b with _ | ⟨⟨tb⟩, cb⟩ <;> rcases c with _ | ⟨⟨tc⟩, cc⟩ <;>
    simp_all [stopWithin]
  rcases h₁ with h₁ | ⟨rfl, h₁⟩ <;> rcases h₂ with h₂ | ⟨rfl, h₂⟩
  · exact .inl (by omega)
  · exact .inl h₁
  · exact .inl h₂
  · exact .inr ⟨rfl, by cases cb <;> simp_all⟩

theorem startWithin_meet (a b : Option Bound) : startWithin a (meetEnds laterStart a b) = true := by
  rcases a with _ | ⟨⟨ta⟩, ca⟩ <;> rcases b with _ | ⟨⟨tb⟩, cb⟩ <;>
    simp [startWithin, meetEnds, laterStart]
  split_ifs with h₁ h₂ <;> simp
  · exact .inl h₂
  · cases ca <;> simp

theorem stopWithin_meet (a b : Option Bound) : stopWithin a (meetEnds earlierStop a b) = true := by
  rcases a with _ | ⟨⟨ta⟩, ca⟩ <;> rcases b with _ | ⟨⟨tb⟩, cb⟩ <;>
    simp [stopWithin, meetEnds, earlierStop]
  split_ifs with h₁ h₂ <;> simp
  · exact .inl h₂
  · cases ca <;> simp

@[simp] theorem isEmpty_never : never.isEmpty = true := by decide

theorem contains_iff (ho : o.isEmpty = false) :
    r.contains o = true ↔
      r.isEmpty = false ∧ startWithin r.lower o.lower = true ∧ stopWithin r.upper o.upper = true := by
  unfold contains
  cases r.isEmpty <;> simp [ho]

theorem contains_never (r : TimeRange) : r.contains never = true := by
  simp [contains]

theorem isEmpty_of_contains (h : r.contains o = true) (ho : o.isEmpty = false) :
    r.isEmpty = false :=
  ((contains_iff ho).1 h).1

theorem contains_trans (h₁ : r.contains o = true) (h₂ : o.contains p = true) :
    r.contains p = true := by
  cases hp : p.isEmpty
  · obtain ⟨ho, hs₂, he₂⟩ := (contains_iff hp).1 h₂
    obtain ⟨hr, hs₁, he₁⟩ := (contains_iff ho).1 h₁
    exact (contains_iff hp).2 ⟨hr, startWithin_trans hs₁ hs₂, stopWithin_trans he₁ he₂⟩
  · simp [contains, hp]

theorem contains_intersect (r o : TimeRange) : r.contains (r.intersect o) = true := by
  unfold intersect
  split_ifs with he
  · exact contains_never r
  · simp only [Bool.or_eq_true, not_or, Bool.not_eq_true] at he
    unfold make
    split_ifs with hm
    · exact contains_never r
    · exact (contains_iff (Bool.eq_false_iff.2 hm)).2
        ⟨he.1, startWithin_meet r.lower o.lower, stopWithin_meet r.upper o.upper⟩

/-- A range holds a range with keys whose first nanosecond comes after its own first key and
whose last comes before its last key, at the ends it has. -/
theorem contains_of_keys {c o : TimeRange} {a b : Int} (hc : c.isEmpty = false)
    (hk : Segment.keysOf o = .ok (a, b))
    (hlo : c.lower.isSome → ∃ k, c.startKey = .ok k ∧ k < a)
    (hhi : c.upper.isSome → ∃ k, c.stopKey = .ok k ∧ b < k) : c.contains o = true := by
  obtain ⟨ho, -, ha, hb⟩ := Segment.keysOf_eq_ok.1 hk
  refine (contains_iff ho).2 ⟨hc, ?_, ?_⟩
  · by_cases hl : c.lower.isSome
    · obtain ⟨k, hck, hlt⟩ := hlo hl
      exact startWithin_of_startKey_lt hck ha hlt
    · simp only [Option.isSome_iff_ne_none, ne_eq, not_not] at hl
      simp [hl, startWithin]
  · by_cases hu : c.upper.isSome
    · obtain ⟨k, hck, hlt⟩ := hhi hu
      exact stopWithin_of_lt_stopKey hck hb hlt
    · simp only [Option.isSome_iff_ne_none, ne_eq, not_not] at hu
      simp [hu, stopWithin]

end TimeRange

end MediaTimeline
