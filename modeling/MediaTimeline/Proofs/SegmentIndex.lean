import Mathlib
import MediaTimeline.Proofs.RangeKeys
import MediaTimeline.Store.Query

/-! The segment index and its representation invariant. -/

namespace MediaTimeline

namespace SegmentKey

variable {a b : SegmentKey}

theorem stop_lt_of_before (h : a.before b) (hf : a.flow = b.flow) : a.stop < b.stop := by
  rcases before_iff.1 h with h | ⟨-, h⟩
  · exact absurd h (hf ▸ lt_irrefl _)
  · exact h

end SegmentKey

namespace Segment

variable {s t : Segment}

def Overlaps (s t : Segment) : Prop :=
  s.flow = t.flow ∧ ∃ n, s.start ≤ n ∧ n ≤ s.stop ∧ t.start ≤ n ∧ n ≤ t.stop

theorem overlaps_comm : s.Overlaps t ↔ t.Overlaps s := by
  unfold Overlaps
  constructor <;> rintro ⟨hf, n, h⟩ <;> exact ⟨hf.symm, n, by omega⟩

def Meets (s t : Segment) : Prop :=
  s.flow = t.flow ∧ t.start ≤ s.stop ∧ s.start ≤ t.stop

theorem overlaps_iff (hs : s.start ≤ s.stop) (ht : t.start ≤ t.stop) :
    s.Overlaps t ↔ s.Meets t := by
  unfold Overlaps Meets
  constructor
  · rintro ⟨hf, n, h⟩
    exact ⟨hf, by omega, by omega⟩
  · rintro ⟨hf, h₁, h₂⟩
    exact ⟨hf, max s.start t.start, by omega⟩

theorem overlaps_of_key_eq (h : s.key = t.key) (hs : s.start ≤ s.stop) (ht : t.start ≤ t.stop) :
    s.Overlaps t := by
  simp only [key, SegmentKey.mk.injEq] at h
  exact (overlaps_iff hs ht).2 ⟨h.1, by omega, by omega⟩

end Segment

namespace Store

/-- The representation invariant of a store's segments. -/
structure Indexed (segs : List Segment) : Prop where
  ordered : segs.Pairwise fun a b => a.key.before b.key
  keyed : ∀ s ∈ segs, Segment.keysOf s.range = .ok (s.start, s.stop)
  startLeStop : ∀ s ∈ segs, s.start ≤ s.stop
  apart : ∀ a ∈ segs, ∀ b ∈ segs, a ≠ b → ¬ a.Overlaps b

variable {l l' : List Segment} {s x : Segment}

theorem indexed_nil : Indexed [] :=
  ⟨.nil, by simp, by simp, by simp⟩

theorem Indexed.ends64 (h : Indexed l) : ∀ s ∈ l, IsInt64 s.stop := fun s hs =>
  TimeRange.stopKey_int64 (Segment.keysOf_eq_ok.1 (h.keyed s hs)).2.2.2

theorem Indexed.sublist (h : Indexed l) (hs : l'.Sublist l) : Indexed l' :=
  ⟨h.ordered.sublist hs, fun s hm => h.keyed s (hs.subset hm),
    fun s hm => h.startLeStop s (hs.subset hm),
    fun a ha b hb => h.apart a (hs.subset ha) b (hs.subset hb)⟩

theorem Indexed.map {f : Segment → Segment} (h : Indexed l)
    (hf : ∀ s, (f s).flow = s.flow ∧ (f s).range = s.range ∧ (f s).start = s.start ∧
      (f s).stop = s.stop) : Indexed (l.map f) := by
  have hk : ∀ s, (f s).key = s.key := fun s => by simp [Segment.key, (hf s).1, (hf s).2.2.2]
  refine ⟨List.pairwise_map.2 (h.ordered.imp fun hab => by rwa [hk, hk]), ?_, ?_, ?_⟩
  · simp only [List.mem_map, forall_exists_index, and_imp, forall_apply_eq_imp_iff₂]
    intro s hs
    rw [(hf s).2.1, (hf s).2.2.1, (hf s).2.2.2]
    exact h.keyed s hs
  · simp only [List.mem_map, forall_exists_index, and_imp, forall_apply_eq_imp_iff₂]
    intro s hs
    rw [(hf s).2.2.1, (hf s).2.2.2]
    exact h.startLeStop s hs
  · simp only [List.mem_map, forall_exists_index, and_imp, forall_apply_eq_imp_iff₂]
    intro a ha b hb hne
    have hab : a ≠ b := fun e => hne (e ▸ rfl)
    simpa [Segment.Overlaps, (hf a).1, (hf a).2.2.1, (hf a).2.2.2, (hf b).1, (hf b).2.2.1,
      (hf b).2.2.2] using h.apart a ha b hb hab

theorem Indexed.pairwise_stop_lt_start (h : Indexed l) :
    l.Pairwise fun a b => a.flow = b.flow → a.stop < b.start := by
  refine h.ordered.imp_of_mem fun {a b} ha hb hab hf => ?_
  have hlt : a.stop < b.stop := SegmentKey.stop_lt_of_before hab hf
  have hne : a ≠ b := by rintro rfl; simp at hab
  have hapart := h.apart a ha b hb hne
  rw [Segment.overlaps_iff (h.startLeStop a ha) (h.startLeStop b hb)] at hapart
  simp only [Segment.Meets, hf, true_and, not_and, not_le] at hapart
  have := h.startLeStop a ha
  omega

/-- The index invariant, with its last clause read on key order: each segment ends before the
next one of its flow starts. -/
theorem indexed_iff : Indexed l ↔ (l.Pairwise fun a b => a.key.before b.key) ∧
    (∀ s ∈ l, Segment.keysOf s.range = .ok (s.start, s.stop)) ∧ (∀ s ∈ l, s.start ≤ s.stop) ∧
    l.Pairwise fun a b => a.flow = b.flow → a.stop < b.start := by
  refine ⟨fun h => ⟨h.ordered, h.keyed, h.startLeStop, h.pairwise_stop_lt_start⟩, ?_⟩
  rintro ⟨hord, hkey, hle, hsep⟩
  have : Std.Symm fun a b : Segment => ¬ a.Overlaps b :=
    ⟨fun _ _ h => by rwa [Segment.overlaps_comm]⟩
  have hpair : l.Pairwise fun a b : Segment => ¬ a.Overlaps b :=
    hsep.imp fun hlt ⟨hf, _, h⟩ => by
      have := hlt hf
      omega
  exact ⟨hord, hkey, hle, fun a ha b hb hne => hpair.forall ha hb hne⟩

instance : DecidablePred Indexed := fun _ => decidable_of_iff _ indexed_iff.symm

/-! Storing a segment. -/

theorem mem_placeSegment_of_mem (hx : x ∈ l) (hk : x.key ≠ s.key) : x ∈ placeSegment s l := by
  induction l with
  | nil => simp at hx
  | cons t ts ih =>
    simp only [placeSegment, place] at ih ⊢
    rcases List.mem_cons.1 hx with rfl | hx
    · split_ifs with he <;> simp_all
    · split_ifs <;> simp_all

theorem mem_of_mem_placeSegment (hx : x ∈ placeSegment s l) : x = s ∨ x ∈ l :=
  mem_of_mem_place hx

theorem self_mem_placeSegment : s ∈ placeSegment s l := by
  induction l with
  | nil => simp [placeSegment, place]
  | cons t ts ih =>
    simp only [placeSegment, place] at ih ⊢
    split_ifs <;> simp_all

theorem sublist_placeSegment (h : ∀ t ∈ l, t.key ≠ s.key) : l.Sublist (placeSegment s l) := by
  induction l with
  | nil => simp
  | cons t ts ih =>
    simp only [placeSegment, place] at ih ⊢
    have ht : (s.key == t.key) = false := beq_eq_false_iff_ne.2 (h t (by simp)).symm
    simp only [ht, Bool.false_eq_true, if_false]
    split_ifs
    · exact List.sublist_cons_self _ _
    · exact (ih fun u hu => h u (by simp [hu])).cons_cons t

theorem length_placeSegment (h : ∀ t ∈ l, t.key ≠ s.key) :
    (placeSegment s l).length = l.length + 1 := by
  induction l with
  | nil => simp [placeSegment, place]
  | cons t ts ih =>
    simp only [placeSegment, place] at ih ⊢
    have ht : (s.key == t.key) = false := beq_eq_false_iff_ne.2 (h t (by simp)).symm
    have hts := ih fun u hu => h u (by simp [hu])
    simp only [ht, Bool.false_eq_true, if_false]
    split_ifs
    · simp
    · simp only [List.length_cons, hts]

theorem pairwise_placeSegment (h : l.Pairwise fun a b => a.key.before b.key) :
    (placeSegment s l).Pairwise fun a b => a.key.before b.key :=
  pairwise_place @SegmentKey.before_trans @SegmentKey.before_or_before h

/-- Storing a segment that shares no nanosecond with a stored one keeps the invariant. -/
theorem Indexed.placeSegment (h : Indexed l) (hk : Segment.keysOf s.range = .ok (s.start, s.stop))
    (hle : s.start ≤ s.stop) (hfree : ∀ t ∈ l, ¬ t.Overlaps s) : Indexed (placeSegment s l) := by
  refine ⟨pairwise_placeSegment h.ordered, ?_, ?_, ?_⟩
  · intro x hx
    rcases mem_of_mem_placeSegment hx with rfl | hx
    exacts [hk, h.keyed x hx]
  · intro x hx
    rcases mem_of_mem_placeSegment hx with rfl | hx
    exacts [hle, h.startLeStop x hx]
  · intro a ha b hb hne
    rcases mem_of_mem_placeSegment ha with ha' | ha' <;>
      rcases mem_of_mem_placeSegment hb with hb' | hb'
    · exact absurd (ha'.trans hb'.symm) hne
    · subst ha'
      exact fun ho => hfree b hb' (Segment.overlaps_comm.1 ho)
    · subst hb'
      exact hfree a ha'
    · exact h.apart a ha' b hb' hne

/-- A segment that shares no nanosecond with the stored ones has a key of its own. -/
theorem key_ne_of_not_overlaps (h : Indexed l) (hle : s.start ≤ s.stop)
    (hfree : ∀ t ∈ l, ¬ t.Overlaps s) : ∀ t ∈ l, t.key ≠ s.key := fun t ht hk =>
  hfree t ht (Segment.overlaps_of_key_eq hk (h.startLeStop t ht) hle)

end Store

end MediaTimeline
