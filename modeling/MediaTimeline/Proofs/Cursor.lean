import Mathlib
import MediaTimeline.Proofs.Planning

/-! The cursor of a delete request. -/

namespace MediaTimeline

namespace Bound

variable {a b : Bound} {n : Int}

theorem admitsFrom_laterStart (ha : a.AdmitsFrom n) (hb : b.AdmitsFrom n) :
    (TimeRange.laterStart a b).AdmitsFrom n := by
  unfold TimeRange.laterStart
  split_ifs with h₁ h₂
  · exact ha
  · exact hb
  · -- a tie: both start at the same instant, and the instant is held if both hold it
    simp only [Stamp.lt_iff_nanos, not_lt] at h₁ h₂
    simp only [AdmitsFrom, Bool.and_eq_true] at ha hb ⊢
    rcases ha with ha | ⟨ha, hca⟩ <;> rcases hb with hb | ⟨hb, hcb⟩
    · exact .inl ha
    · exact .inl ha
    · exact .inl (by omega)
    · exact .inr ⟨ha, hca, hcb⟩

theorem admitsUpTo_earlierStop (ha : a.AdmitsUpTo n) (hb : b.AdmitsUpTo n) :
    (TimeRange.earlierStop a b).AdmitsUpTo n := by
  unfold TimeRange.earlierStop
  split_ifs with h₁ h₂
  · exact ha
  · exact hb
  · simp only [Stamp.lt_iff_nanos, not_lt] at h₁ h₂
    simp only [AdmitsUpTo, Bool.and_eq_true] at ha hb ⊢
    rcases ha with ha | ⟨ha, hca⟩ <;> rcases hb with hb | ⟨hb, hcb⟩
    · exact .inl ha
    · exact .inl ha
    · exact .inl (by omega)
    · exact .inr ⟨ha, hca, hcb⟩

theorem le_laterStart_right (a b : Bound) : b.stamp.nanos ≤ (TimeRange.laterStart a b).stamp.nanos := by
  unfold TimeRange.laterStart
  split_ifs with h₁ h₂
  · simp only [Stamp.lt_iff_nanos] at h₁; omega
  · exact le_rfl
  · simp only [Stamp.lt_iff_nanos, not_lt] at h₁ h₂; omega

end Bound

namespace TimeRange

def Admits (r : TimeRange) (n : Int) : Prop :=
  (∀ b ∈ r.lower, b.AdmitsFrom n) ∧ (∀ b ∈ r.upper, b.AdmitsUpTo n)

variable {r o c : TimeRange} {n : Int}

theorem Admits.isEmpty_eq_false (h : r.Admits n) : r.isEmpty = false := by
  obtain ⟨hl, hu⟩ := h
  unfold isEmpty
  rcases hlo : r.lower with _ | a <;> rcases hup : r.upper with _ | b
  all_goals try rfl
  have ha := hl a hlo
  have hb := hu b hup
  simp only [Bound.AdmitsFrom, Bound.AdmitsUpTo] at ha hb
  cases hca : a.closed <;> cases hcb : b.closed <;> simp_all [Stamp.eq_iff_nanos] <;> omega

theorem forall_mem_meetEnds {P : Bound → Prop} {f : Bound → Bound → Bound} {x y : Option Bound}
    (hf : ∀ a b, P a → P b → P (f a b)) (hx : ∀ a ∈ x, P a) (hy : ∀ b ∈ y, P b) :
    ∀ c ∈ meetEnds f x y, P c := by
  rcases x with _ | a <;> rcases y with _ | b
  · simp [meetEnds]
  · exact hy
  · exact hx
  · simp only [meetEnds, Option.mem_def, Option.some.injEq, forall_eq']
    exact hf a b (hx a rfl) (hy b rfl)

theorem intersect_eq (h : (r.intersect o).isEmpty = false) :
    r.intersect o = ⟨meetEnds laterStart r.lower o.lower, meetEnds earlierStop r.upper o.upper⟩ := by
  unfold intersect make at *
  split_ifs at * with he hm
  · simp at h
  · simp at h
  · rfl

theorem Admits.intersect (hr : r.Admits n) (ho : o.Admits n) : (r.intersect o).Admits n := by
  have hmeet : (TimeRange.mk (meetEnds laterStart r.lower o.lower)
      (meetEnds earlierStop r.upper o.upper)).Admits n :=
    ⟨forall_mem_meetEnds (fun _ _ => Bound.admitsFrom_laterStart) hr.1 ho.1,
      forall_mem_meetEnds (fun _ _ => Bound.admitsUpTo_earlierStop) hr.2 ho.2⟩
  simp only [TimeRange.intersect, hr.isEmpty_eq_false, ho.isEmpty_eq_false, Bool.or_self,
    Bool.false_eq_true, if_false, make, hmeet.isEmpty_eq_false]
  exact hmeet

theorem admitsFrom_of_startWithin {x y : Option Bound} (h : startWithin x y = true)
    (hy : ∀ b ∈ y, b.AdmitsFrom n) : ∀ a ∈ x, a.AdmitsFrom n := by
  rcases x with _ | a <;> rcases y with _ | b
  · simp
  · simp
  · simp [startWithin] at h
  · simp only [Option.mem_def, Option.some.injEq, forall_eq']
    have hb := hy b rfl
    simp only [startWithin, Stamp.lt_iff_nanos, Bool.or_eq_true, decide_eq_true_eq,
      Bool.and_eq_true, Stamp.eq_iff_nanos, Bool.not_eq_true'] at h
    simp only [Bound.AdmitsFrom] at hb ⊢
    rcases h with h | ⟨heq, hc | hc⟩ <;> rcases hb with hb | ⟨hb, hbc⟩
    · exact .inl (by omega)
    · exact .inl (by omega)
    · exact .inl (by omega)
    · exact .inr ⟨by omega, hc⟩
    · exact .inl (by omega)
    · simp_all

theorem admitsUpTo_of_stopWithin {x y : Option Bound} (h : stopWithin x y = true)
    (hy : ∀ b ∈ y, b.AdmitsUpTo n) : ∀ a ∈ x, a.AdmitsUpTo n := by
  rcases x with _ | a <;> rcases y with _ | b
  · simp
  · simp
  · simp [stopWithin] at h
  · simp only [Option.mem_def, Option.some.injEq, forall_eq']
    have hb := hy b rfl
    simp only [stopWithin, Stamp.lt_iff_nanos, Bool.or_eq_true, decide_eq_true_eq,
      Bool.and_eq_true, Stamp.eq_iff_nanos, Bool.not_eq_true'] at h
    simp only [Bound.AdmitsUpTo] at hb ⊢
    rcases h with h | ⟨heq, hc | hc⟩ <;> rcases hb with hb | ⟨hb, hbc⟩
    · exact .inl (by omega)
    · exact .inl (by omega)
    · exact .inl (by omega)
    · exact .inr ⟨by omega, hc⟩
    · exact .inl (by omega)
    · simp_all

theorem Admits.of_contains (h : r.contains o = true) (ho : o.Admits n) : r.Admits n := by
  obtain ⟨-, hs, he⟩ := (contains_iff ho.isEmpty_eq_false).1 h
  exact ⟨admitsFrom_of_startWithin hs ho.1, admitsUpTo_of_stopWithin he ho.2⟩

theorem admits_iff_of_keys {a b : Int} (h : Segment.keysOf r = .ok (a, b)) :
    r.Admits n ↔ a ≤ n ∧ n ≤ b := by
  obtain ⟨-, -, ha, hb⟩ := Segment.keysOf_eq_ok.1 h
  obtain ⟨l, hl, hla⟩ := startKey_eq_ok ha
  obtain ⟨u, hu, hub⟩ := stopKey_eq_ok hb
  simp [Admits, hl, hu, hla, hub]

theorem after_eq {u : Bound} (hne : r.isEmpty = false) (hu : r.upper = some u) :
    r.after = ⟨some ⟨u.stamp, !u.closed⟩, none⟩ := by
  have hm : (TimeRange.mk (some ⟨u.stamp, !u.closed⟩) none).isEmpty = false := rfl
  simp only [after, hne, Bool.false_eq_true, if_false, hu, make, hm]

theorem admits_after {z : Int} (hne : r.isEmpty = false) (hz : r.stopKey = .ok z) (hn : z < n) :
    r.after.Admits n := by
  obtain ⟨u, hu, huz⟩ := stopKey_eq_ok hz
  have hout : ¬ u.AdmitsUpTo n := fun h' => absurd ((huz n).1 h') (by omega)
  rw [after_eq hne hu]
  refine ⟨?_, by simp⟩
  simp only [Option.mem_def, Option.some.injEq, forall_eq']
  simp only [Bound.AdmitsUpTo, not_or, not_and, Bound.AdmitsFrom] at hout ⊢
  by_cases heq : u.stamp.nanos = n
  · exact .inr ⟨heq, by simpa using hout.2 heq.symm⟩
  · exact .inl (by omega)

theorem startWithin_after {a z : Int} (hc : c.startKey = .ok a) (hne : r.isEmpty = false)
    (hz : r.stopKey = .ok z) (haz : a ≤ z) : startWithin c.lower r.after.lower = true := by
  obtain ⟨l, hl, hla⟩ := startKey_eq_ok hc
  obtain ⟨u, hu, huz⟩ := stopKey_eq_ok hz
  have hlz : l.AdmitsFrom z := (hla z).2 haz
  have huz' : u.AdmitsUpTo z := (huz z).2 le_rfl
  rw [after_eq hne hu, hl]
  simp only [Bound.AdmitsFrom, Bound.AdmitsUpTo] at hlz huz'
  simp only [startWithin, Stamp.lt_iff_nanos, Bool.or_eq_true, decide_eq_true_eq,
    Bool.and_eq_true, Stamp.eq_iff_nanos, Bool.not_eq_true']
  rcases hlz with hlz | ⟨hlz, hlc⟩ <;> rcases huz' with huz' | ⟨huz', huc⟩
  · exact .inl (by omega)
  · exact .inl (by omega)
  · exact .inl (by omega)
  · exact .inr ⟨by omega, .inl hlc⟩

theorem startWithin_meet_right (x : Option Bound) (b : Bound) :
    startWithin (some b) (meetEnds laterStart x (some b)) = true := by
  rcases x with _ | a
  · simp [meetEnds, startWithin]
  · simp only [meetEnds]
    unfold laterStart
    split_ifs with h₁ h₂
    · simp [startWithin, h₁]
    · cases hb : b.closed <;> simp [startWithin, hb]
    · -- a tie keeps the instant, closed only if both ends are
      have heq : b.stamp = a.stamp := Stamp.eq_iff_nanos.2 (by simp only [Stamp.lt_iff_nanos] at h₁ h₂; omega)
      cases hb : b.closed <;> simp [startWithin, heq, hb]

theorem stopWithin_self (x : Option Bound) : stopWithin x x = true := by
  rcases x with _ | b
  · rfl
  · cases hb : b.closed <;> simp [stopWithin, hb]

theorem keyed_of_admits (h : r.Admits n) (hn : IsInt64 n)
    (hlo : ∀ b ∈ r.lower, int64Min ≤ b.stamp.nanos) (hhi : ∀ b ∈ r.upper, b.stamp.nanos ≤ int64Max) :
    r.Keyed := by
  obtain ⟨hl, hu⟩ := h
  constructor
  · rcases hlr : r.lower with _ | b
    · exact .inl rfl
    · have hb := hl b hlr
      have hmin := hlo b hlr
      simp only [Bound.AdmitsFrom] at hb
      unfold IsInt64 at hn
      have h64 : IsInt64 b.stamp.nanos := ⟨hmin, by omega⟩
      refine .inr ?_
      unfold startKey
      rw [hlr]
      simp only [Stamp.toNanos?, if_pos h64]
      cases hc : b.closed
      · -- an open start lies before `n`, so short of the greatest int64
        have hmax : b.stamp.nanos ≠ int64Max := by
          rcases hb with hb | ⟨-, hb⟩
          · omega
          · simp [hc] at hb
        simp [hmax]
      · simp
  · rcases hur : r.upper with _ | b
    · exact .inl rfl
    · have hb := hu b hur
      have hmax := hhi b hur
      simp only [Bound.AdmitsUpTo] at hb
      unfold IsInt64 at hn
      have h64 : IsInt64 b.stamp.nanos := ⟨by omega, hmax⟩
      refine .inr ?_
      unfold stopKey
      rw [hur]
      simp only [Stamp.toNanos?, if_pos h64]
      cases hc : b.closed
      · have hmin : b.stamp.nanos ≠ int64Min := by
          rcases hb with hb | ⟨-, hb⟩
          · omega
          · simp [hc] at hb
        simp [hmin]
      · simp

theorem upper_int64_of_stopKey {z : Int} (h : r.stopKey = .ok z) :
    ∃ u, r.upper = some u ∧ IsInt64 u.stamp.nanos := by
  unfold stopKey at h
  rcases hu : r.upper with _ | u
  · simp [hu] at h
  · refine ⟨u, rfl, ?_⟩
    rw [hu] at h
    by_contra h64
    simp [Stamp.toNanos?, h64] at h

theorem meetEnds_none (f : Bound → Bound → Bound) (x : Option Bound) : meetEnds f x none = x := by
  cases x <;> rfl

theorem meetsOnGrid_of_admits {s : Segment} (hk : r.Keyed) (h : r.Admits n) (h₁ : s.start ≤ n)
    (h₂ : n ≤ s.stop) : r.MeetsOnGrid s := by
  obtain ⟨hkl, hku⟩ := hk
  constructor
  · rcases hkl with hl | ⟨a, ha⟩
    · exact .inl hl
    · obtain ⟨l, hl, hla⟩ := startKey_eq_ok ha
      exact .inr ⟨a, ha, by have := (hla n).1 (h.1 l hl); omega⟩
  · rcases hku with hu | ⟨b, hb⟩
    · exact .inl hu
    · obtain ⟨u, hu, hub⟩ := stopKey_eq_ok hb
      exact .inr ⟨b, hb, by have := (hub n).1 (h.2 u hu); omega⟩

end TimeRange

section Trim

variable {α : Type} {r : TimeRange} {f : α → TimeRange} {x : α}

theorem mem_trimEnds_of_contains {items : List α} (hx : x ∈ items) (hc : r.contains (f x) = true) :
    x ∈ trimEnds r f items := by
  match items, hx with
  | [a], hx =>
    rw [List.mem_singleton] at hx
    subst hx
    simp [trimEnds, hc]
  | a :: b :: rest, hx =>
    have hne : b :: rest ≠ [] := List.cons_ne_nil b rest
    simp only [trimEnds, List.getLast?_cons_cons, List.getLast?_eq_some_getLast hne]
    by_cases hl : r.contains (f ((b :: rest).getLast hne)) = true
    · -- the last item stays, and the first goes only if the range does not hold it
      simp only [hl, Bool.not_true, Bool.and_false, Bool.false_eq_true, if_false]
      split_ifs with ha
      · exact hx
      · rcases List.mem_cons.1 hx with rfl | hx
        · exact absurd hc ha
        · exact hx
    · -- the last item goes, and it is not `x`, which the range holds
      simp only [hl, Bool.not_false, Bool.and_true, List.length_cons,
        show rest.length + 1 + 1 > 1 by omega, decide_true, if_true, List.dropLast_cons_cons]
      have hlast : x ≠ (b :: rest).getLast hne := fun h => hl (h ▸ hc)
      have hmid : x ∈ a :: (b :: rest).dropLast := by
        rcases List.mem_cons.1 hx with rfl | hx
        · exact List.mem_cons_self
        · rw [← List.dropLast_append_getLast hne, List.mem_append, List.mem_singleton] at hx
          exact List.mem_cons_of_mem a (hx.resolve_right hlast)
      split_ifs with ha
      · exact hmid
      · rcases List.mem_cons.1 hmid with rfl | hmid
        · exact absurd hc ha
        · exact hmid

end Trim

namespace TimeRange

variable {c T : TimeRange} {flow : String} {l l' : List Segment}

/-- From the cursor `c` every segment of `flow` in `l` that the range `T` holds can still be
reached: the cursor is not empty, has keys, and meets the segment on the grid. -/
def Reaches (c : TimeRange) (flow : String) (T : TimeRange) (l : List Segment) : Prop :=
  ∀ seg ∈ l, seg.flow = flow → T.contains seg.range = true →
    c.isEmpty = false ∧ c.Keyed ∧ c.MeetsOnGrid seg

theorem Reaches.mono (h : c.Reaches flow T l) (hs : ∀ x ∈ l', x ∈ l) : c.Reaches flow T l' :=
  fun seg hm => h seg (hs seg hm)

theorem reaches_never :
    never.Reaches flow T l ↔ ∀ seg ∈ l, seg.flow = flow → T.contains seg.range = false := by
  simp only [Reaches, isEmpty_never, Bool.true_eq_false, false_and, imp_false, Bool.not_eq_true]

end TimeRange

namespace Store

variable {st : Store} {q : SegmentQuery}

theorem query_eq_take (h64 : st.Ends64) (q : SegmentQuery) :
    ∃ k, (st.query q).segments = (st.queryMatches q).take k := by
  rw [query_eq h64]
  split_ifs
  · exact ⟨_, rfl⟩
  · exact ⟨(st.queryMatches q).length, List.take_length.symm⟩

theorem query_eq_of_lastKey (h64 : st.Ends64) (hq : 0 < q.limit)
    (h : (st.query q).lastKey = none) : (st.query q).segments = st.queryMatches q := by
  rw [query_eq_of_pos h64 hq] at h ⊢
  split_ifs at h ⊢ with hlt
  · -- a page cut at the limit is not empty, so it hands on the key of its last segment
    exfalso
    have hne : (st.queryMatches q).take q.limit.toNat ≠ [] := by
      simp only [ne_eq, List.take_eq_nil_iff, not_or]
      constructor
      · omega
      · intro hnil
        simp [hnil] at hlt
        omega
    simp [List.getLast?_eq_none_iff, hne] at h
  · rfl

end Store

namespace ServiceM

open TimeRange

variable {st : Store} {flow : String} {size : Int} {T c : TimeRange}

def batchPage (st : Store) (flow : String) (size : Int) (c : TimeRange) : SegmentPage :=
  st.query (plannedQuery st flow { range := some c, limit := size } c)

theorem query_plannedQuery (st : Store) (flow : String) (size : Int) (c : TimeRange) :
    st.query (plannedQuery st flow { range := some c, limit := size } c) = batchPage st flow size c :=
  rfl

theorem batchPage_sublist (st : Store) (flow : String) (size : Int) (c : TimeRange) :
    (batchPage st flow size c).segments.Sublist st.segments :=
  Store.query_sublist rfl

theorem flow_of_mem_batchPage {x : Segment} (hx : x ∈ (batchPage st flow size c).segments) :
    x.flow = flow :=
  SegmentQuery.flow_of_selects (Store.selects_of_mem_query hx)

theorem limit_plannedQuery_pos (st : Store) (flow : String) (p : ListParams) (r : TimeRange) :
    0 < (plannedQuery st flow p r).limit := by
  simp only [plannedQuery]
  split_ifs with h
  · decide
  · omega

/-- Past a segment `L` with keys, inside a cursor with keys that ends where the range to delete
ends, the part of the range to delete has int64 ends: it starts past `L`, an int64 instant, and
ends where the range to delete does. -/
theorem intersect_after_ends_int64 (hk : c.Keyed) (hend : c.upper = T.upper) {L : Segment}
    (hLne : L.range.isEmpty = false) (hLz : L.range.stopKey = .ok L.stop)
    (hne : (T.intersect L.range.after).isEmpty = false) :
    (∀ b ∈ (T.intersect L.range.after).lower, int64Min ≤ b.stamp.nanos) ∧
      ∀ b ∈ (T.intersect L.range.after).upper, b.stamp.nanos ≤ int64Max := by
  obtain ⟨u, hu, hu64⟩ := upper_int64_of_stopKey hLz
  constructor
  · rw [intersect_eq hne, after_eq hLne hu]
    rcases T.lower with _ | t
    · simpa [meetEnds] using hu64.1
    · simpa [meetEnds] using hu64.1.trans (Bound.le_laterStart_right t ⟨u.stamp, !u.closed⟩)
  · rw [intersect_eq hne, after_eq hLne hu]
    simp only [meetEnds_none, ← hend]
    intro b hb
    rcases hk.2 with hcu | ⟨z, hz⟩
    · simp [hcu] at hb
    · obtain ⟨u', hu', h64⟩ := upper_int64_of_stopKey hz
      rw [hu', Option.mem_def, Option.some.injEq] at hb
      exact hb ▸ h64.2

/-- After a batch removes what it kept of its page, every segment of the flow that the range to
delete holds and that is left lies past the page's last segment, so the part of the range to
delete past that segment reaches it. A page that hands on no key leaves none of them. -/
theorem reaches_past_page (hidx : Store.Indexed st.segments) (hc : c.Reaches flow T st.segments)
    (hk : c.Keyed) (hend : c.upper = T.upper) :
    let page := batchPage st flow size c
    let left := st.segments.filter (· ∉ trimEnds T (·.range) page.segments)
    (page.lastKey = none → never.Reaches flow T left) ∧
      ∀ L, page.segments.getLast? = some L → (T.intersect L.range.after).Reaches flow T left := by
  intro page left
  set q := plannedQuery st flow { range := some c, limit := size } c with hq
  -- a segment left that the range to delete holds is a match the page did not hold
  have hmatch : ∀ seg ∈ left, seg.flow = flow → T.contains seg.range = true →
      seg ∈ st.segments ∧ seg ∈ st.queryMatches q ∧ seg ∉ page.segments := by
    intro seg hs hf hT
    obtain ⟨hs, hnot⟩ := List.mem_filter.1 hs
    simp only [decide_eq_true_eq] at hnot
    obtain ⟨-, hk', hmeet⟩ := hc seg hs hf hT
    have hsel : q.selects seg = true := (selects_plannedQuery hidx hk' hs hf).2 ⟨hmeet, .inl rfl⟩
    exact ⟨hs, Store.mem_queryMatches.2 ⟨hs, hsel, rfl⟩,
      fun hp => hnot (mem_trimEnds_of_contains hp hT)⟩
  constructor
  · intro hnone
    rw [reaches_never]
    intro seg hs hf
    by_contra hT
    obtain ⟨-, hm, hnp⟩ := hmatch seg hs hf (by simpa using hT)
    exact hnp (by rw [show page = st.query q from rfl, Store.query_eq_of_lastKey hidx.ends64
      (limit_plannedQuery_pos _ _ _ _) hnone]; exact hm)
  · intro L hL seg hs hf hT
    obtain ⟨hseg, hm, hnp⟩ := hmatch seg hs hf hT
    obtain ⟨k, hpage⟩ := Store.query_eq_take hidx.ends64 q
    have hdrop : seg ∈ (st.queryMatches q).drop k := by
      rw [← List.take_append_drop k (st.queryMatches q), List.mem_append] at hm
      exact hm.resolve_left fun h => hnp (by rw [show page = st.query q from rfl, hpage]; exact h)
    have hLk : ((st.queryMatches q).take k).getLast? = some L := by
      rw [← hpage]
      exact hL
    rw [← Store.filter_ahead_eq_drop (Store.pairwise_queryMatches _ _) hLk,
      List.mem_filter] at hdrop
    have hlt : L.stop < seg.stop := by
      simpa [SegmentQuery.ahead, hq, plannedQuery] using hdrop.2
    have hLmem : L ∈ st.segments := Store.mem_of_mem_query (List.mem_of_getLast? hL)
    obtain ⟨hLne, -, -, hLz⟩ := Segment.keysOf_eq_ok.1 (hidx.keyed L hLmem)
    have hsle := hidx.startLeStop seg hseg
    have hadm : (T.intersect L.range.after).Admits seg.stop :=
      (((admits_iff_of_keys (hidx.keyed seg hseg)).2 ⟨hsle, le_rfl⟩).of_contains hT).intersect
        (admits_after hLne hLz hlt)
    have hne := hadm.isEmpty_eq_false
    obtain ⟨hlo, hhi⟩ := intersect_after_ends_int64 hk hend hLne hLz hne
    have hk' := keyed_of_admits hadm
      (stopKey_int64 (Segment.keysOf_eq_ok.1 (hidx.keyed seg hseg)).2.2.2) hlo hhi
    exact ⟨hne, hk', meetsOnGrid_of_admits hk' hadm hsle le_rfl⟩

/-- Past a stored segment that a cursor meets, the part of the range to delete lies inside the
cursor when that ends where the range to delete ends; and it ends there too, unless it is empty. -/
theorem contains_intersect_after (hidx : Store.Indexed st.segments) (hcne : c.isEmpty = false)
    (hend : c.upper = T.upper) {L : Segment} (hLmem : L ∈ st.segments) (hmeet : c.MeetsOnGrid L) :
    c.contains (T.intersect L.range.after) = true ∧
      ((T.intersect L.range.after).isEmpty = true ∨ (T.intersect L.range.after).upper = T.upper) := by
  cases hne : (T.intersect L.range.after).isEmpty
  case true => exact ⟨by simp [contains, hne], .inl rfl⟩
  case false =>
  obtain ⟨hLne, -, -, hLz⟩ := Segment.keysOf_eq_ok.1 (hidx.keyed L hLmem)
  obtain ⟨u, hu, -⟩ := stopKey_eq_ok hLz
  have hupper : (T.intersect L.range.after).upper = T.upper := by
    rw [intersect_eq hne, after_eq hLne hu, meetEnds_none]
  refine ⟨(contains_iff hne).2 ⟨hcne, ?_, ?_⟩, .inr hupper⟩
  · -- the cursor starts no later than `L` ends, so before what lies past `L`
    have hafter : startWithin c.lower L.range.after.lower = true := by
      rcases hmeet.1 with hl | ⟨a, ha, hle⟩
      · simp [hl, startWithin]
      · exact startWithin_after ha hLne hLz hle
    rw [intersect_eq hne]
    rw [after_eq hLne hu] at hafter ⊢
    exact startWithin_trans hafter (startWithin_meet_right T.lower _)
  · rw [hupper, ← hend]
    exact stopWithin_self _

theorem contains_past_page (hidx : Store.Indexed st.segments) (hk : c.Keyed)
    (hcne : c.isEmpty = false) (hend : c.upper = T.upper) {L : Segment}
    (hL : L ∈ (batchPage st flow size c).segments) :
    c.contains (T.intersect L.range.after) = true ∧
      ((T.intersect L.range.after).isEmpty = true ∨ (T.intersect L.range.after).upper = T.upper) := by
  have hsel := Store.selects_of_mem_query hL
  have hLmem : L ∈ st.segments := Store.mem_of_mem_query hL
  have hf : L.flow = flow := SegmentQuery.flow_of_selects hsel
  exact contains_intersect_after hidx hcne hend hLmem
    ((selects_plannedQuery hidx hk hLmem hf).1 hsel).1

end ServiceM

end MediaTimeline
