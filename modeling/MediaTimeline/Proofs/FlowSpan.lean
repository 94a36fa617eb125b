import MediaTimeline.Proofs.Checkpoint
import MediaTimeline.Proofs.Listing
import MediaTimeline.Proofs.RangeText

/-! The span of a flow's segments. -/

namespace MediaTimeline

theorem Stamp.representable_of_int64 {v : Int} (h : IsInt64 v) : Stamp.Representable v := by
  unfold IsInt64 int64Min int64Max at h
  unfold Stamp.Representable int64Min int64Max nanosPerSecond
  omega

namespace TimeRange

variable {a b o r : TimeRange}

/-- A join of two non-empty ranges holds a range that starts within the first and ends within
the second. -/
theorem extend_contains_of_within (ha : a.isEmpty = false) (hb : b.isEmpty = false)
    (hl : startWithin a.lower o.lower = true) (hu : stopWithin b.upper o.upper = true) :
    (a.extend b).contains o = true := by
  rw [contains_iff_cuts]
  intro _
  have hjoin := isEmpty_join (o := b) ha
  simp only [extend, ha, hb, Bool.false_eq_true, if_false, make_of_isEmpty_eq_false hjoin,
    lowCut_joinEnds, highCut_joinEnds]
  exact ⟨min_le_of_left_le (startWithin_iff.1 hl), le_max_of_le_right (stopWithin_iff.1 hu)⟩

/-- A range with both keys is normal: it holds something, and its instants have 64-bit counts. -/
theorem normal_of_keysOf {k : Int × Int} (h : Segment.keysOf r = .ok k) : r.Normal := by
  obtain ⟨hne, -, hstart, hstop⟩ := Segment.keysOf_eq_ok.1 h
  refine ⟨fun he => absurd he (by simp [hne]), fun x hx => ?_, fun x hx => ?_⟩
  · have h64 : IsInt64 x.stamp.nanos := by
      by_contra h64
      obtain ⟨e, he, -⟩ := startKey_of_overflow hx (.inl h64)
      rw [he] at hstart
      cases hstart
    exact Stamp.representable_of_int64 h64
  · have h64 : IsInt64 x.stamp.nanos := by
      by_contra h64
      obtain ⟨e, he, -⟩ := stopKey_of_overflow hx (.inl h64)
      rw [he] at hstop
      cases hstop
    exact Stamp.representable_of_int64 h64

theorem normal_never : never.Normal :=
  ⟨fun _ => rfl, representable_never⟩

end TimeRange

namespace Segment

open TimeRange

def IsSpan (segs : List Segment) (r : TimeRange) : Prop :=
  (∀ x ∈ segs, r.contains x.range = true) ∧
    ∀ c : TimeRange, (∀ x ∈ segs, c.contains x.range = true) → c.contains r = true

/-- Segments with their keys, each ending before the next one starts. -/
structure Chain (segs : List Segment) : Prop where
  keyed : ∀ x ∈ segs, keysOf x.range = .ok (x.start, x.stop)
  startLeStop : ∀ x ∈ segs, x.start ≤ x.stop
  ascending : segs.Pairwise fun x y => x.stop < y.start

variable {segs : List Segment} {a b x : Segment} {r : TimeRange}

theorem isSpan_nil : IsSpan [] never :=
  ⟨by simp, fun c _ => contains_never c⟩

theorem isSpan_singleton (a : Segment) : IsSpan [a] a.range :=
  ⟨by simp [contains_self], fun _ h => h a (List.mem_singleton_self a)⟩

theorem isSpan_reverse : IsSpan segs.reverse r ↔ IsSpan segs r := by
  simp only [IsSpan, List.mem_reverse]

theorem IsSpan.contains {r o : TimeRange} (hr : IsSpan segs r) (ho : IsSpan segs o) :
    r.contains o = true :=
  ho.2 r hr.1

theorem IsSpan.eq_never (h : IsSpan [] r) (hn : r.Normal) : r = never := by
  refine hn.eq_never ?_
  by_contra hne
  rw [Bool.not_eq_true] at hne
  have hnever := isEmpty_of_contains (h.2 never (by simp)) hne
  rw [isEmpty_never] at hnever
  cases hnever

theorem Chain.of_indexed {l : List Segment} (h : Store.Indexed l) (hs : segs.Sublist l)
    {flow : String} (hf : ∀ x ∈ segs, x.flow = flow) : Chain segs where
  keyed x hx := h.keyed x (hs.subset hx)
  startLeStop x hx := h.startLeStop x (hs.subset hx)
  ascending := (h.pairwise_stop_lt_start.sublist hs).imp_of_mem
    fun hx hy hxy => hxy ((hf _ hx).trans (hf _ hy).symm)

theorem Chain.normal (h : Chain segs) (hx : x ∈ segs) : x.range.Normal :=
  normal_of_keysOf (h.keyed x hx)

theorem Chain.isEmpty_eq_false (h : Chain segs) (hx : x ∈ segs) : x.range.isEmpty = false :=
  (keysOf_eq_ok.1 (h.keyed x hx)).1

theorem Chain.startWithin_head (h : Chain segs) (ha : segs.head? = some a) (hx : x ∈ segs) :
    startWithin a.range.lower x.range.lower = true := by
  obtain ⟨rest, rfl⟩ := List.head?_eq_some_iff.1 ha
  rcases List.mem_cons.1 hx with rfl | hx
  · exact startWithin_self _
  · -- the first ends before `x` starts, so its first nanosecond comes earlier
    have hlt : x.start > a.stop := (List.pairwise_cons.1 h.ascending).1 x hx
    have hle := h.startLeStop a List.mem_cons_self
    refine startWithin_of_startKey_lt (keysOf_eq_ok.1 (h.keyed a List.mem_cons_self)).2.2.1
      (keysOf_eq_ok.1 (h.keyed x (List.mem_cons_of_mem a hx))).2.2.1 ?_
    omega

theorem Chain.stopWithin_last (h : Chain segs) (hb : segs.getLast? = some b) (hx : x ∈ segs) :
    stopWithin b.range.upper x.range.upper = true := by
  obtain ⟨init, rfl⟩ := List.getLast?_eq_some_iff.1 hb
  rcases List.mem_append.1 hx with hx | hx
  · have hlt : x.stop < b.start :=
      (List.pairwise_append.1 h.ascending).2.2 x hx b (List.mem_singleton_self b)
    have hle := h.startLeStop b (by simp)
    refine stopWithin_of_lt_stopKey (keysOf_eq_ok.1 (h.keyed b (by simp))).2.2.2
      (keysOf_eq_ok.1 (h.keyed x (by simp [hx]))).2.2.2 ?_
    omega
  · rw [List.mem_singleton.1 hx]
    exact stopWithin_self _

theorem Chain.isSpan (h : Chain segs) (ha : segs.head? = some a) (hb : segs.getLast? = some b) :
    IsSpan segs (a.range.extend b.range) := by
  have hma : a ∈ segs := List.mem_of_head? ha
  have hmb : b ∈ segs := List.mem_of_getLast? hb
  refine ⟨fun x hx => ?_, fun c hc => ?_⟩
  · exact extend_contains_of_within (h.isEmpty_eq_false hma) (h.isEmpty_eq_false hmb)
      (h.startWithin_head ha hx) (h.stopWithin_last hb hx)
  · exact (contains_extend_iff _ _ c).2 ⟨hc a hma, hc b hmb⟩

section Either

variable {rev : Bool} (hc : Chain (if rev then segs.reverse else segs))
include hc

theorem Chain.normal_of_either (hx : x ∈ segs) : x.range.Normal := by
  split_ifs at hc
  · exact hc.normal (List.mem_reverse.2 hx)
  · exact hc.normal hx

theorem Chain.isSpan_of_either (ha : segs.head? = some a) (hb : segs.getLast? = some b) :
    IsSpan segs (a.range.extend b.range) := by
  split_ifs at hc
  · -- read backwards, the last segment comes first
    have hspan := hc.isSpan (by rwa [List.head?_reverse]) (by rwa [List.getLast?_reverse])
    rwa [extend_comm, isSpan_reverse] at hspan
  · exact hc.isSpan ha hb

end Either

end Segment

namespace Store

variable {st : Store}

theorem queryMatches_flow (st : Store) (flow : String) (rev : Bool) (n : Int) :
    st.queryMatches { flow := flow, reverse := rev, limit := n } =
      (if rev then st.segments.reverse else st.segments).filter (·.flow == flow) := by
  have hany : ("" : String).isEmpty = true := rfl
  unfold queryMatches
  cases rev <;> simp [SegmentQuery.selects, SegmentQuery.pastStart, hany]

theorem chain_query (h : Indexed st.segments) (q : SegmentQuery) :
    Segment.Chain
      (if q.reverse then (st.query q).segments.reverse else (st.query q).segments) := by
  have hflow : ∀ x ∈ (st.query q).segments, x.flow = q.flow := fun x hx =>
    SegmentQuery.flow_of_selects (selects_of_mem_query hx)
  have hsub : (st.query q).segments.Sublist
      (if q.reverse then st.segments.reverse else st.segments) :=
    (sublist_walk q).trans List.filter_sublist
  split_ifs with hr
  · rw [if_pos hr] at hsub
    exact .of_indexed h (by simpa using hsub.reverse) (fun x hx => hflow x (List.mem_reverse.1 hx))
  · rw [if_neg hr] at hsub
    exact .of_indexed h hsub hflow

end Store

namespace ServiceM

open Segment

variable {flow : String} {s s' : Service}

/-- What a look for the first or last segment of a flow finds when it succeeds, and the segments
it leaves. -/
theorem first?_eq_ok {asc : Bool} {x : Option Segment} (h64 : s.store.Ends64)
    (h : (first? flow asc).runOn s = (.ok (.ok x), s')) :
    x = (s.store.queryMatches { flow := flow, reverse := !asc, limit := 1 }).head? ∧
      s'.store = s.store := by
  unfold first? at h
  rw [runOn_bind, runOn_query] at h
  split_ifs at h
  · cases h
  · simp only [runOn_pure, Prod.mk.injEq, Except.ok.injEq] at h
    obtain ⟨rfl, rfl⟩ := h
    exact ⟨Store.head?_query (Store.startsAt_startEnd h64 _) zero_lt_one, rfl⟩

theorem runOn_first?_of_up {asc : Bool} (hq : s.outages.queryAfter = none) :
    (first? flow asc).runOn s =
      (.ok (.ok (s.store.query { flow := flow, reverse := !asc, limit := 1 }).segments.head?),
        { s with outages := { s.outages with queries := s.outages.queries + 1 } }) := by
  simp only [first?, runOn_bind, runOn_query_of_up _ hq, runOn_pure]

theorem flowRange_ok (hq : s.outages.queryAfter = none) :
    ∃ r s', (flowRange flow).runOn s = (.ok (.ok r), s') := by
  simp only [flowRange, runOn_bind, runOn_first?_of_up hq]
  split
  · exact ⟨_, _, rfl⟩
  · -- the second look runs on the state the first leaves, with no outage either
    rw [runOn_bind, runOn_first?_of_up
      (s := { s with outages := { s.outages with queries := s.outages.queries + 1 } }) hq]
    dsimp only
    split <;> exact ⟨_, _, rfl⟩

theorem flowRange_isSpan {r : TimeRange} (hs : Store.Indexed s.store.segments)
    (h : (flowRange flow).runOn s = (.ok (.ok r), s')) :
    IsSpan (s.store.segments.filter (·.flow == flow)) r ∧ r.Normal := by
  have hchain : Chain (s.store.segments.filter (·.flow == flow)) :=
    .of_indexed hs List.filter_sublist fun x hx => by simpa using (List.mem_filter.1 hx).2
  unfold flowRange at h
  rw [runOn_bind] at h
  rcases h₁ : (first? flow true).runOn s with ⟨(c | (e | x)), s₁⟩ <;> rw [h₁] at h
  · cases h
  · cases h
  obtain ⟨hx, hs₁⟩ := first?_eq_ok (Store.Indexed.ends64 hs) h₁
  simp only [Store.queryMatches_flow, Bool.not_true, Bool.false_eq_true, if_false] at hx
  rcases x with _ | a
  · -- no segment: the range is empty, as is the flow
    simp only [runOn_pure, Prod.mk.injEq, Except.ok.injEq] at h
    rw [← h.1, List.head?_eq_none_iff.1 hx.symm]
    exact ⟨isSpan_nil, TimeRange.normal_never⟩
  dsimp only at h
  rw [runOn_bind] at h
  rcases h₂ : (first? flow false).runOn s₁ with ⟨(c | (e | y)), s₂⟩ <;> rw [h₂] at h
  · cases h
  · cases h
  obtain ⟨hy, -⟩ := first?_eq_ok (hs₁ ▸ Store.Indexed.ends64 hs) h₂
  simp only [Store.queryMatches_flow, hs₁, Bool.not_false, if_true, List.filter_reverse,
    List.head?_reverse] at hy
  rcases y with _ | b
  · -- a flow with a first segment has a last one
    have hne : s.store.segments.filter (·.flow == flow) ≠ [] := fun hnil => by
      simp [hnil] at hx
    exact absurd (List.getLast?_eq_none_iff.1 hy.symm) hne
  · simp only [runOn_pure, Prod.mk.injEq, Except.ok.injEq] at h
    rw [← h.1]
    exact ⟨hchain.isSpan hx.symm hy.symm, (hchain.normal (List.mem_of_head? hx.symm)).extend
      (hchain.normal (List.mem_of_getLast? hy.symm))⟩

theorem list_isSpan {p : ListParams} {l : Listing} (hs : Store.Indexed s.store.segments)
    (h : (list flow p).runOn s = (.ok (.ok l), s')) : IsSpan l.segments l.range ∧ l.range.Normal := by
  cases hv : p.validate with
  | error v => simp [list, hv, refuse] at h
  | ok u =>
    rcases hplan : (plan flow { p with limit := clampLimit p.limit }).runOn s with
      ⟨(c | (e | ⟨q, ok⟩)), s₁⟩ <;> simp only [list, runOn_bind, hv, hplan] at h
    · cases h
    · cases h
    have hbk : s.Bookkept s₁ := by
      have hkept := runOn_of_always (plan_spec s flow { p with limit := clampLimit p.limit })
        (s := s) (Service.bookkept_refl s)
      rwa [hplan] at hkept
    have hs₁ : Store.Indexed s₁.store.segments := hbk.1 ▸ hs
    cases ok
    · -- nothing to query: an empty page over the empty range
      simp only [Bool.not_false, if_true, runOn_pure, Prod.mk.injEq, Except.ok.injEq] at h
      rw [← h.1]
      exact ⟨isSpan_nil, TimeRange.normal_never⟩
    simp only [Bool.not_true, Bool.false_eq_true, if_false, runOn_bind, runOn_query] at h
    split_ifs at h
    · simp at h
    simp only [runOn_pure, Prod.mk.injEq, Except.ok.injEq] at h
    rw [← h.1]
    have hc := Store.chain_query hs₁ q
    generalize (s₁.store.query q).segments = segs at hc ⊢
    dsimp only
    split
    · next a b ha hb =>
      split_ifs with hlen
      · -- one segment: its own range
        obtain ⟨x, rfl⟩ := List.length_eq_one_iff.1 hlen
        obtain rfl : x = a := by simpa using ha
        exact ⟨isSpan_singleton x, hc.normal_of_either List.mem_cons_self⟩
      · exact ⟨hc.isSpan_of_either ha hb, (hc.normal_of_either (List.mem_of_head? ha)).extend
          (hc.normal_of_either (List.mem_of_getLast? hb))⟩
    · next hnone =>
      have hnil : segs = [] := by
        cases segs with
        | nil => rfl
        | cons x rest =>
          exact (hnone x _ rfl (List.getLast?_eq_some_getLast (List.cons_ne_nil x rest))).elim
      subst hnil
      exact ⟨isSpan_nil, TimeRange.normal_never⟩

/-- The spans the service reports are tight. Over a store that keeps its invariant, the range of
a flow is the span of the flow's segments, and empty when it has none, and it is found unless a
query fails. The range a page of a listing reports, read either way, is the span of the page's
segments, and the page's range header is text that reads back as that range. -/
theorem reported_spans_are_tight (flow : String) (p : ListParams) (s : Service)
    (hs : Store.Indexed s.store.segments) :
    (∀ r s', (flowRange flow).runOn s = (.ok (.ok r), s') →
      IsSpan (s.store.segments.filter (·.flow == flow)) r ∧
        (s.store.segments.filter (·.flow == flow) = [] → r = TimeRange.never)) ∧
    (s.outages.queryAfter = none → ∃ r s', (flowRange flow).runOn s = (.ok (.ok r), s')) ∧
    ∀ l s', (list flow p).runOn s = (.ok (.ok l), s') →
      IsSpan l.segments l.range ∧
        ∃ v, ("X-Paging-Timerange", v) ∈ l.headers ∧ TimeRange.parse v = .ok l.range := by
  refine ⟨fun r s' h => ?_, flowRange_ok, fun l s' h => ?_⟩
  · obtain ⟨hspan, hnormal⟩ := flowRange_isSpan hs h
    exact ⟨hspan, fun hnil => (hnil ▸ hspan).eq_never hnormal⟩
  · obtain ⟨hspan, hnormal⟩ := list_isSpan hs h
    exact ⟨hspan, l.range.toText, by simp [Listing.headers],
      TimeRange.parse_toText_of_normal hnormal⟩

/-- With two segments a second apart stored, the range of their flow is found, and it runs from
the start of the first to the end of the second. -/
theorem reported_span_of_two_segments :
    let seg₁ : Segment := ⟨"cam", "o1", ⟨some ⟨⟨0⟩, true⟩, some ⟨⟨1000000000⟩, false⟩⟩, "", "",
      none, none, none, [], 0, 999999999⟩
    let seg₂ : Segment := ⟨"cam", "o2", ⟨some ⟨⟨2000000000⟩, true⟩, some ⟨⟨3000000000⟩, false⟩⟩,
      "", "", none, none, none, [], 2000000000, 2999999999⟩
    let s : Service := { store := { segments := [seg₁, seg₂], byObject := [seg₁, seg₂] } }
    ∃ r s', (flowRange "cam").runOn s = (.ok (.ok r), s') ∧ IsSpan [seg₁, seg₂] r ∧
      r = ⟨some ⟨⟨0⟩, true⟩, some ⟨⟨3000000000⟩, false⟩⟩ := by
  intro seg₁ seg₂ s
  have hidx : Store.Indexed s.store.segments := by decide
  obtain ⟨hspan, hok, -⟩ := reported_spans_are_tight "cam" {} s hidx
  obtain ⟨r, s', h⟩ := hok rfl
  have hrange : (((flowRange "cam").runOn s).1.toOption.bind Except.toOption) =
      some ⟨some ⟨⟨0⟩, true⟩, some ⟨⟨3000000000⟩, false⟩⟩ := by decide
  rw [h] at hrange
  have hflow : s.store.segments.filter (·.flow == "cam") = [seg₁, seg₂] := by decide
  exact ⟨r, s', h, hflow ▸ (hspan r s' h).1, Option.some.inj hrange⟩

end ServiceM

end MediaTimeline
