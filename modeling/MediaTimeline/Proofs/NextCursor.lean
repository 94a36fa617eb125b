import Mathlib
import MediaTimeline.Proofs.Checkpoint
import MediaTimeline.Proofs.CleanupHandoff

/-! What the cursor past a page matches. -/

namespace MediaTimeline

namespace TimeRange

variable {r c c' T : TimeRange} {n : Int}

theorem admits_of_keys (hk : r.Keyed) (hlo : ∀ a, r.startKey = .ok a → a ≤ n)
    (hhi : ∀ b, r.stopKey = .ok b → n ≤ b) : r.Admits n := by
  obtain ⟨hkl, hku⟩ := hk
  constructor
  · intro l hl
    rcases hkl with h | ⟨a, ha⟩
    · simp [h] at hl
    · obtain ⟨l', hl', hla⟩ := startKey_eq_ok ha
      rw [hl'] at hl
      cases hl
      exact (hla n).2 (hlo a ha)
  · intro u hu
    rcases hku with h | ⟨b, hb⟩
    · simp [h] at hu
    · obtain ⟨u', hu', hub⟩ := stopKey_eq_ok hb
      rw [hu'] at hu
      cases hu
      exact (hub n).2 (hhi b hb)

theorem startKey_le_startKey {a a' : Int} (hs : startWithin c.lower c'.lower = true)
    (ha : c.startKey = .ok a) (ha' : c'.startKey = .ok a') : a ≤ a' := by
  obtain ⟨l, hl, hla⟩ := startKey_eq_ok ha
  obtain ⟨l', hl', hla'⟩ := startKey_eq_ok ha'
  have hin : ∀ b ∈ c'.lower, b.AdmitsFrom a' := by
    rw [hl']
    simpa using (hla' a').2 le_rfl
  exact (hla a').1 (admitsFrom_of_startWithin hs hin l hl)

theorem stopKey_le_stopKey {b b' : Int} (hs : stopWithin c.upper c'.upper = true)
    (hb : c.stopKey = .ok b) (hb' : c'.stopKey = .ok b') : b' ≤ b := by
  obtain ⟨u, hu, hub⟩ := stopKey_eq_ok hb
  obtain ⟨u', hu', hub'⟩ := stopKey_eq_ok hb'
  have hin : ∀ x ∈ c'.upper, x.AdmitsUpTo b' := by
    rw [hu']
    simpa using (hub' b').2 le_rfl
  exact (hub b').1 (admitsUpTo_of_stopWithin hs hin u hu)

theorem MeetsOnGrid.of_contains {s : Segment} (h : c.contains c' = true) (hne : c'.isEmpty = false)
    (hk : c.Keyed) (hm : c'.MeetsOnGrid s) : c.MeetsOnGrid s := by
  obtain ⟨-, hs, he⟩ := (contains_iff hne).1 h
  obtain ⟨hkl, hku⟩ := hk
  obtain ⟨hml, hmu⟩ := hm
  constructor
  · rcases hkl with hl | ⟨a, ha⟩
    · exact .inl hl
    · -- `c` has a start, so `c'` has one, and no earlier
      rcases hml with hl' | ⟨a', ha', hle⟩
      · obtain ⟨l, hl, -⟩ := startKey_eq_ok ha
        simp [hl', hl, startWithin] at hs
      · exact .inr ⟨a, ha, (startKey_le_startKey hs ha ha').trans hle⟩
  · rcases hku with hu | ⟨b, hb⟩
    · exact .inl hu
    · rcases hmu with hu' | ⟨b', hb', hle⟩
      · obtain ⟨u, hu, -⟩ := stopKey_eq_ok hb
        simp [hu', hu, stopWithin] at he
      · exact .inr ⟨b, hb, hle.trans (stopKey_le_stopKey he hb hb')⟩

theorem lt_of_admitsFrom_after {z : Int} (hne : r.isEmpty = false) (hz : r.stopKey = .ok z)
    (h : ∀ b ∈ r.after.lower, b.AdmitsFrom n) : z < n := by
  obtain ⟨u, hu, huz⟩ := stopKey_eq_ok hz
  rw [after_eq hne hu] at h
  have hb := h _ rfl
  by_contra hle
  have hup : u.AdmitsUpTo n := (huz n).2 (by omega)
  simp only [Bound.AdmitsFrom, Bound.AdmitsUpTo] at hb hup
  cases hc : u.closed <;> simp [hc] at hb hup <;> omega

end TimeRange

namespace Store

theorem query_page {st : Store} (h64 : st.Ends64) {q : SegmentQuery} (hq : 0 < q.limit) :
    (st.query q).segments = (st.queryMatches q).take q.limit.toNat ∧
      ((st.query q).lastKey.isSome ↔ q.limit < (st.queryMatches q).length) := by
  rw [query_eq_of_pos h64 hq]
  split_ifs with h
  · refine ⟨rfl, ?_⟩
    have hne : (st.queryMatches q).take q.limit.toNat ≠ [] := by
      simp only [ne_eq, List.take_eq_nil_iff, not_or]
      exact ⟨by omega, fun hnil => by simp [hnil] at h; omega⟩
    simp [hne, h]
  · have hlen : (st.queryMatches q).length ≤ q.limit.toNat := by omega
    refine ⟨(List.take_of_length_le hlen).symm, ?_⟩
    simp only [Option.isSome_none, Bool.false_eq_true, false_iff, not_lt]
    omega

end Store

namespace ServiceM

open TimeRange

variable {st st' : Store} {flow : String} {size : Int} {T c : TimeRange}

def batchMatches (st : Store) (flow : String) (size : Int) (c : TimeRange) : List Segment :=
  st.queryMatches (plannedQuery st flow { range := some c, limit := size } c)

theorem mem_batchMatches (hidx : Store.Indexed st.segments) (hk : c.Keyed) {s : Segment} :
    s ∈ batchMatches st flow size c ↔ s ∈ st.segments ∧ s.flow = flow ∧ c.MeetsOnGrid s := by
  unfold batchMatches
  rw [Store.mem_queryMatches]
  constructor
  · rintro ⟨hs, hsel, -⟩
    have hf : s.flow = flow := SegmentQuery.flow_of_selects hsel
    exact ⟨hs, hf, ((selects_plannedQuery hidx hk hs hf).1 hsel).1⟩
  · rintro ⟨hs, hf, hm⟩
    exact ⟨hs, (selects_plannedQuery hidx hk hs hf).2 ⟨hm, .inl rfl⟩,
      by simp [plannedQuery, SegmentQuery.pastStart]⟩

theorem meetsOnGrid_of_contains (hidx : Store.Indexed st.segments) {x : Segment}
    (hx : x ∈ st.segments) (hk : T.Keyed) (hc : T.contains x.range = true) : T.MeetsOnGrid x := by
  obtain ⟨hne, -, ha, hb⟩ := Segment.keysOf_eq_ok.1 (hidx.keyed x hx)
  exact MeetsOnGrid.of_contains hc hne hk
    ⟨.inr ⟨x.start, ha, hidx.startLeStop x hx⟩, .inr ⟨x.stop, hb, hidx.startLeStop x hx⟩⟩

theorem batchMatches_sublist (st : Store) (flow : String) (size : Int) (c : TimeRange) :
    (batchMatches st flow size c).Sublist st.segments := by
  unfold batchMatches Store.queryMatches
  simp only [plannedQuery, Bool.false_eq_true, if_false]
  exact List.filter_sublist

theorem eq_of_sublist_of_mem_iff {l d₁ d₂ : List Segment} (h₁ : d₁.Sublist l) (h₂ : d₂.Sublist l)
    (hl : l.Nodup) (h : ∀ x, x ∈ d₁ ↔ x ∈ d₂) : d₁ = d₂ := by
  rw [← Store.filter_mem_of_sublist h₁ hl, ← Store.filter_mem_of_sublist h₂ hl]
  exact List.filter_congr fun x _ => by simp [h x]

/-- Past a match `L`, the part of the range to delete is a cursor with keys that meets every
later match: a later match starts after `L` ends, at a nanosecond that both the cursor and what
lies past `L` let in. -/
theorem next_cursor_meets (hidx : Store.Indexed st.segments) (hk : c.Keyed)
    (hT : T.contains c = true) (hend : c.upper = T.upper) {L s : Segment}
    (hL : L ∈ batchMatches st flow size c) (hs : s ∈ batchMatches st flow size c)
    (hlt : L.stop < s.stop) :
    (T.intersect L.range.after).isEmpty = false ∧ (T.intersect L.range.after).Keyed ∧
      (T.intersect L.range.after).MeetsOnGrid s := by
  obtain ⟨hLs, hLf, hLm⟩ := (mem_batchMatches hidx hk).1 hL
  obtain ⟨hss, hsf, hsm⟩ := (mem_batchMatches hidx hk).1 hs
  have hne : L ≠ s := by rintro rfl; omega
  have hLle := hidx.startLeStop L hLs
  have hsle := hidx.startLeStop s hss
  have hstart : L.stop < s.start :=
    (hidx.stop_lt_start_or hLs hss (hLf.trans hsf.symm) hne).resolve_right (by omega)
  obtain ⟨hLne, -, -, hLz⟩ := Segment.keysOf_eq_ok.1 (hidx.keyed L hLs)
  have hcadm : c.Admits s.start := by
    refine admits_of_keys hk (fun a ha => ?_) (fun b hb => ?_)
    · rcases hLm.1 with hl | ⟨a', ha', hle⟩
      · exact absurd hl (lower_ne_none_of_startKey ha)
      · rw [ha] at ha'
        cases ha'
        omega
    · rcases hsm.2 with hu' | ⟨b', hb', hle⟩
      · exact absurd hu' (upper_ne_none_of_stopKey hb)
      · rw [hb] at hb'
        cases hb'
        exact hle
  have hadm : (T.intersect L.range.after).Admits s.start :=
    (hcadm.of_contains hT).intersect (admits_after hLne hLz hstart)
  have hne' := hadm.isEmpty_eq_false
  have hL64 := stopKey_int64 hLz
  have hs64 := stopKey_int64 (Segment.keysOf_eq_ok.1 (hidx.keyed s hss)).2.2.2
  obtain ⟨hlo, hhi⟩ := intersect_after_ends_int64 hk hend hLne hLz hne'
  have hk' := keyed_of_admits hadm ⟨by unfold IsInt64 at hL64; omega, by unfold IsInt64 at hs64; omega⟩
    hlo hhi
  exact ⟨hne', hk', meetsOnGrid_of_admits hk' hadm le_rfl hsle⟩

theorem lt_startKey_next {L : Segment} (hLne : L.range.isEmpty = false)
    (hLz : L.range.stopKey = .ok L.stop) (hne : (T.intersect L.range.after).isEmpty = false) {a : Int}
    (ha : (T.intersect L.range.after).startKey = .ok a) : L.stop < a := by
  obtain ⟨u, hu, -⟩ := stopKey_eq_ok hLz
  obtain ⟨l, hl, hla⟩ := startKey_eq_ok ha
  have hin : ∀ b ∈ (T.intersect L.range.after).lower, b.AdmitsFrom a := by
    rw [hl]
    simpa using (hla a).2 le_rfl
  have hwithin : startWithin L.range.after.lower (T.intersect L.range.after).lower = true := by
    rw [intersect_eq hne, after_eq hLne hu]
    exact startWithin_meet_right T.lower _
  exact lt_of_admitsFrom_after hLne hLz (admitsFrom_of_startWithin hwithin hin)

theorem contains_next (hidx : Store.Indexed st.segments) (hk : c.Keyed) (hcne : c.isEmpty = false)
    (hend : c.upper = T.upper) {L : Segment} (hL : L ∈ batchMatches st flow size c) :
    c.contains (T.intersect L.range.after) = true := by
  obtain ⟨hLmem, -, hmeet⟩ := (mem_batchMatches hidx hk).1 hL
  exact (contains_intersect_after hidx hcne hend hLmem hmeet).1

/-- Past a match `L` that a later match follows, the cursor meets exactly the segments of the flow
that the cursor before it meets and that end after `L`. -/
theorem meetsOnGrid_next_iff (hidx : Store.Indexed st.segments) (hk : c.Keyed)
    (hcne : c.isEmpty = false) (hT : T.contains c = true) (hend : c.upper = T.upper)
    {L s₀ : Segment} (hL : L ∈ batchMatches st flow size c) (hs₀ : s₀ ∈ batchMatches st flow size c)
    (hlt : L.stop < s₀.stop) {x : Segment} (hx : x ∈ st.segments) (hxf : x.flow = flow) :
    (T.intersect L.range.after).MeetsOnGrid x ↔ c.MeetsOnGrid x ∧ L.stop < x.stop := by
  obtain ⟨hne', hk', -⟩ := next_cursor_meets hidx hk hT hend hL hs₀ hlt
  obtain ⟨hLne, -, -, hLz⟩ := Segment.keysOf_eq_ok.1 (hidx.keyed L ((mem_batchMatches hidx hk).1 hL).1)
  constructor
  · intro hxm
    refine ⟨hxm.of_contains (contains_next hidx hk hcne hend hL) hne' hk, ?_⟩
    rcases hxm.1 with hl | ⟨a, ha, hle⟩
    · -- past `L` there is a start
      obtain ⟨u, hu, -⟩ := stopKey_eq_ok hLz
      rw [intersect_eq hne', after_eq hLne hu] at hl
      cases hTl : T.lower <;> simp [hTl, meetEnds] at hl
    · exact (lt_startKey_next hLne hLz hne' ha).trans_le hle
  · rintro ⟨hxm, hlt'⟩
    exact (next_cursor_meets hidx hk hT hend hL ((mem_batchMatches hidx hk).2 ⟨hx, hxf, hxm⟩) hlt').2.2

/-- A batch that removes part of the first `n` matches and hands on past the last of them leaves
as the matches of the next cursor exactly the matches after the first `n`. -/
theorem batchMatches_next (hidx : Store.Indexed st.segments) (hk : c.Keyed) (hcne : c.isEmpty = false)
    (hT : T.contains c = true) (hend : c.upper = T.upper) {n : Nat} {L : Segment}
    (hmore : n < (batchMatches st flow size c).length)
    (hL : ((batchMatches st flow size c).take n).getLast? = some L) {D : List Segment}
    (hD : ∀ x ∈ D, x ∈ (batchMatches st flow size c).take n)
    (hst' : st'.segments = st.segments.filter (· ∉ D)) :
    batchMatches st' flow size (T.intersect L.range.after) = (batchMatches st flow size c).drop n := by
  set ms := batchMatches st flow size c with hms
  have hnodup : st.segments.Nodup := Store.Ordered.nodup hidx.ordered
  have hmsnd : ms.Nodup := hnodup.sublist (batchMatches_sublist st flow size c)
  have hq : ms.Pairwise fun a b =>
      (plannedQuery st flow { range := some c, limit := size } c).ahead a.stop b.stop :=
    Store.pairwise_queryMatches _ _
  have hdrop : ∀ x, x ∈ ms.drop n ↔ x ∈ ms ∧ L.stop < x.stop := by
    intro x
    rw [← Store.filter_ahead_eq_drop hq hL]
    simp [SegmentQuery.ahead, plannedQuery]
  have hLm : L ∈ ms := List.mem_of_mem_take (List.mem_of_getLast? hL)
  obtain ⟨s₀, hs₀⟩ := List.exists_mem_of_ne_nil (ms.drop n)
    (by simp only [ne_eq, List.drop_eq_nil_iff, not_le]; exact hmore)
  obtain ⟨hs₀m, hs₀lt⟩ := (hdrop s₀).1 hs₀
  obtain ⟨-, hk', -⟩ := next_cursor_meets hidx hk hT hend hLm hs₀m hs₀lt
  have hsub' : st'.segments.Sublist st.segments := hst' ▸ List.filter_sublist
  refine eq_of_sublist_of_mem_iff ((batchMatches_sublist st' flow size _).trans hsub')
    ((List.drop_sublist n ms).trans (batchMatches_sublist st flow size c)) hnodup fun x => ?_
  rw [mem_batchMatches (hidx.sublist hsub') hk', hdrop x, mem_batchMatches hidx hk, hst',
    List.mem_filter]
  constructor
  · rintro ⟨⟨hx, -⟩, hxf, hxm⟩
    obtain ⟨hm, hlt⟩ := (meetsOnGrid_next_iff hidx hk hcne hT hend hLm hs₀m hs₀lt hx hxf).1 hxm
    exact ⟨⟨hx, hxf, hm⟩, hlt⟩
  · rintro ⟨⟨hx, hxf, hxm⟩, hlt⟩
    have hxD : x ∉ D := fun h => by
      have hxd : x ∈ ms.drop n := (hdrop x).2 ⟨(mem_batchMatches hidx hk).2 ⟨hx, hxf, hxm⟩, hlt⟩
      exact List.disjoint_of_nodup_append (by rwa [List.take_append_drop]) (hD x h) hxd
    exact ⟨⟨hx, by simpa using hxD⟩, hxf,
      (meetsOnGrid_next_iff hidx hk hcne hT hend hLm hs₀m hs₀lt hx hxf).2 ⟨hxm, hlt⟩⟩

theorem limit_plannedQuery (st : Store) (flow : String) (hsize : 0 < size) (r : TimeRange) :
    (plannedQuery st flow { range := some c, limit := size } r).limit = size := by
  simp [plannedQuery, not_le.2 hsize]

theorem batchPage_eq (h64 : st.Ends64) (hsize : 0 < size) :
    (batchPage st flow size c).segments = (batchMatches st flow size c).take size.toNat ∧
      ((batchPage st flow size c).lastKey.isSome ↔ size < (batchMatches st flow size c).length) := by
  have hpage := Store.query_page h64 (q := plannedQuery st flow { range := some c, limit := size } c)
    (by rw [limit_plannedQuery st flow hsize]; exact hsize)
  rw [limit_plannedQuery st flow hsize] at hpage
  exact hpage

theorem plannedQuery_bounds (hne : c.isEmpty = false) (hk : c.Keyed) (p : ListParams) :
    (plannedQuery st flow p c).Bounds c := by
  obtain ⟨hkl, hku⟩ := hk
  refine ⟨hne, fun hl => ?_, fun hu => ?_⟩
  · obtain ⟨a, ha⟩ := hkl.resolve_left (Option.isSome_iff_ne_none.1 hl)
    exact ⟨a, ha, by simp [plannedQuery, ha, Except.toOption]⟩
  · obtain ⟨b, hb⟩ := hku.resolve_left (Option.isSome_iff_ne_none.1 hu)
    exact ⟨b, hb, by simp [plannedQuery, hb, Except.toOption]⟩

theorem mem_trimEnds_page (hidx : Store.Indexed st.segments) (hne : c.isEmpty = false)
    (hk : c.Keyed) (hT : T.contains c = true) {x : Segment} :
    x ∈ trimEnds T (·.range) (batchPage st flow size c).segments ↔
      x ∈ (batchPage st flow size c).segments ∧ T.contains x.range = true := by
  constructor
  · intro hx
    exact ⟨(trimEnds_sublist _).subset hx, trimEnds_query_contained hidx (List.Sublist.refl _) hT
      (plannedQuery_bounds hne hk _) (by simp [plannedQuery]) hx⟩
  · rintro ⟨hx, hc⟩
    exact mem_trimEnds_of_contains hx hc

end ServiceM

end MediaTimeline
