import Mathlib
import MediaTimeline.Proofs.CalmRun
import MediaTimeline.Proofs.Submission

/-! Deleting the segments of one object. -/

namespace MediaTimeline

namespace Cleanup

theorem runs_halve_singleton (id : String) (cap k : Int) (hk : 0 < k) :
    (runs ((([id].length : Int) + k - 1) / k).toNat [id]).flatMap (halve cap) = [[id]] := by
  rw [List.length_singleton, Nat.cast_one, add_sub_cancel_left, Int.ediv_self hk.ne',
    show (1 : Int).toNat = 1 from rfl]
  rw [runs, dif_neg (by simp), List.drop_one, List.tail_cons, runs, dif_pos (by simp)]
  simp [halve]

theorem pack_singleton {id : String} {cap : Int} {bs : List (List String)}
    (h : pack [id] cap = .ok bs) : bs = [[id]] := by
  unfold pack at h
  simp only [List.cons_ne_nil, if_false] at h
  split_ifs at h <;> cases h <;> exact runs_halve_singleton id _ _ (by omega)

end Cleanup

namespace ServiceM

open TimeRange

def objectQuery (st : Store) (flow object : String) (c : TimeRange) : SegmentQuery :=
  plannedQuery st flow { object := object, limit := maxPageLimit } c

def objectPending (st : Store) (flow object : String) (c : TimeRange) : List Segment :=
  if c.isEmpty then [] else st.queryMatches (objectQuery st flow object c)

variable {st st' : Store} {flow object : String} {T c r : TimeRange}

theorem mem_objectQuery (hidx : Store.Indexed st.segments) (hk : c.Keyed) (ho : object ≠ "")
    {x : Segment} :
    x ∈ st.queryMatches (objectQuery st flow object c) ↔
      x ∈ st.segments ∧ x.flow = flow ∧ x.object = object ∧ c.MeetsOnGrid x := by
  rw [Store.mem_queryMatches]
  constructor
  · rintro ⟨hx, hsel, -⟩
    have hf : x.flow = flow := SegmentQuery.flow_of_selects hsel
    obtain ⟨hm, hxo⟩ := (selects_plannedQuery hidx hk hx hf).1 hsel
    exact ⟨hx, hf, hxo.resolve_left ho, hm⟩
  · rintro ⟨hx, hf, hxo, hm⟩
    exact ⟨hx, (selects_plannedQuery hidx hk hx hf).2 ⟨hm, .inr hxo⟩,
      by simp [objectQuery, plannedQuery, SegmentQuery.pastStart]⟩

theorem mem_batchMatches_of_objectQuery (hidx : Store.Indexed st.segments) (hk : c.Keyed)
    (ho : object ≠ "") (size : Int) {x : Segment}
    (hx : x ∈ st.queryMatches (objectQuery st flow object c)) : x ∈ batchMatches st flow size c := by
  obtain ⟨hxs, hxf, -, hxm⟩ := (mem_objectQuery hidx hk ho).1 hx
  exact (mem_batchMatches hidx hk).2 ⟨hxs, hxf, hxm⟩

theorem objectQuery_sublist (st : Store) (flow object : String) (c : TimeRange) :
    (st.queryMatches (objectQuery st flow object c)).Sublist st.segments := by
  unfold Store.queryMatches
  simp only [objectQuery, plannedQuery, Bool.false_eq_true, if_false]
  exact List.filter_sublist

theorem objectPending_sublist (st : Store) (flow object : String) (c : TimeRange) :
    (objectPending st flow object c).Sublist st.segments := by
  unfold objectPending
  split_ifs
  · exact List.nil_sublist _
  · exact objectQuery_sublist st flow object c

theorem objectQuery_pairwise :
    (st.queryMatches (objectQuery st flow object c)).Pairwise fun a b => a.stop < b.stop :=
  (Store.pairwise_queryMatches _ _).imp fun h => by
    simpa [SegmentQuery.ahead, objectQuery, plannedQuery] using h

theorem objectPending_next (hidx : Store.Indexed st.segments) (hk : c.Keyed)
    (hcne : c.isEmpty = false) (hT : T.contains c = true) (hend : c.upper = T.upper)
    (ho : object ≠ "") {n : Nat} {L : Segment}
    (hmore : n < (st.queryMatches (objectQuery st flow object c)).length)
    (hL : ((st.queryMatches (objectQuery st flow object c)).take n).getLast? = some L)
    {D : List Segment} (hD : ∀ x ∈ D, x ∈ (st.queryMatches (objectQuery st flow object c)).take n)
    (hst' : st'.segments = st.segments.filter (· ∉ D)) :
    objectPending st' flow object (T.intersect L.range.after) =
      (st.queryMatches (objectQuery st flow object c)).drop n := by
  set ms := st.queryMatches (objectQuery st flow object c) with hms
  have hnodup : st.segments.Nodup := Store.Ordered.nodup hidx.ordered
  have hq : ms.Pairwise fun a b => (objectQuery st flow object c).ahead a.stop b.stop :=
    Store.pairwise_queryMatches _ _
  have hdrop : ∀ x, x ∈ ms.drop n ↔ x ∈ ms ∧ L.stop < x.stop := by
    intro x
    rw [← Store.filter_ahead_eq_drop hq hL]
    simp [SegmentQuery.ahead, objectQuery, plannedQuery]
  have hLm : L ∈ ms := List.mem_of_mem_take (List.mem_of_getLast? hL)
  obtain ⟨s₀, hs₀⟩ := List.exists_mem_of_ne_nil (ms.drop n)
    (by simp only [ne_eq, List.drop_eq_nil_iff, not_le]; exact hmore)
  obtain ⟨hs₀m, hs₀lt⟩ := (hdrop s₀).1 hs₀
  have hLb := mem_batchMatches_of_objectQuery hidx hk ho maxPageLimit hLm
  have hs₀b := mem_batchMatches_of_objectQuery hidx hk ho maxPageLimit hs₀m
  obtain ⟨hne', hk', -⟩ := next_cursor_meets hidx hk hT hend hLb hs₀b hs₀lt
  have hsub' : st'.segments.Sublist st.segments := hst' ▸ List.filter_sublist
  have hidx' := hidx.sublist hsub'
  have hmsub : ms.Sublist st.segments := objectQuery_sublist st flow object c
  rw [objectPending, if_neg (by simp [hne'])]
  refine eq_of_sublist_of_mem_iff ((objectQuery_sublist st' flow object _).trans hsub')
    ((List.drop_sublist n ms).trans hmsub) hnodup fun x => ?_
  rw [mem_objectQuery hidx' hk' ho, hdrop x, mem_objectQuery hidx hk ho, hst', List.mem_filter]
  constructor
  · rintro ⟨⟨hx, -⟩, hxf, hxo, hxm⟩
    obtain ⟨hm, hlt⟩ := (meetsOnGrid_next_iff hidx hk hcne hT hend hLb hs₀b hs₀lt hx hxf).1 hxm
    exact ⟨⟨hx, hxf, hxo, hm⟩, hlt⟩
  · rintro ⟨⟨hx, hxf, hxo, hxm⟩, hlt⟩
    have hxD : x ∉ D := fun h => by
      have hxd : x ∈ ms.drop n := (hdrop x).2 ⟨(mem_objectQuery hidx hk ho).2 ⟨hx, hxf, hxo, hxm⟩, hlt⟩
      exact List.disjoint_of_nodup_append (by rw [List.take_append_drop]; exact hnodup.sublist hmsub)
        (hD x h) hxd
    exact ⟨⟨hx, by simpa using hxD⟩, hxf, hxo,
      (meetsOnGrid_next_iff hidx hk hcne hT hend hLb hs₀b hs₀lt hx hxf).2 ⟨hxm, hlt⟩⟩

theorem runOn_plan_object (flow object : String) (hne : c.isEmpty = false) (hk : c.Keyed)
    {s : Service} (hup : s.outages.queryAfter = none) :
    ∃ s', (plan flow { object := object, limit := maxPageLimit,
                       range := if c.isEternity then none else some c }).runOn s =
        (.ok (.ok (objectQuery s.store flow object c, true)), s') ∧
      s.Quiet s' ∧ s'.outages.queryAfter = none := by
  by_cases het : c.isEternity
  · obtain ⟨-, hl, hu⟩ := ends_of_isEternity het
    refine ⟨s, ?_, ⟨rfl, rfl, rfl, rfl, rfl⟩, hup⟩
    rw [if_pos het, runOn_plan_unranged flow _ rfl rfl s]
    simp [objectQuery, plannedQuery, hl, hu, startKey_of_lower_none, stopKey_of_upper_none,
      TimeRange.eternity]
  · obtain ⟨s', hplan, -, hqa⟩ := runOn_plan_keyed flow
      { object := object, limit := maxPageLimit, range := some c } rfl rfl hne hk hup
    have hq := runOn_of_always
      (plan_quiet_spec s flow { object := object, limit := maxPageLimit, range := some c })
      (s := s) ⟨rfl, rfl, rfl, rfl, rfl⟩
    rw [hplan] at hq
    rw [if_neg het]
    exact ⟨s', hplan, hq, hqa⟩

theorem runOn_removeContained (flow : String) (r : TimeRange) (items : List Segment) (n : Nat)
    (covered : TimeRange) (s : Service) (hsub : items.Sublist s.store.segments)
    (hflow : ∀ i ∈ items, i.flow = flow) (hdel : s.outages.deleteAfter = none) :
    ∃ covered' s', (removeContained flow r items n covered).runOn s =
        (.ok (.ok (n + (items.filter (r.contains ·.range)).length, covered')), s') ∧
      s'.store = s.store.filter (· ∉ items.filter (r.contains ·.range)) ∧
      s.Settled s' ∧ s'.accepted = s.accepted := by
  induction items generalizing n covered s with
  | nil => exact ⟨covered, s, by simp [removeContained], by simp, s.settled_refl, rfl⟩
  | cons t rest ih =>
    have ht : t ∈ s.store.segments := hsub.subset List.mem_cons_self
    by_cases hc : r.contains t.range = true
    · -- the segment lies in the range and goes, and the rest runs on the store without it
      have hcount : countCall s.outages.deleteAfter s.outages.deletes = false := by
        simp [countCall, hdel]
      have hkey : t.key = ⟨flow, t.stop⟩ := by rw [Segment.key, hflow t List.mem_cons_self]
      have hfind := Store.find?_key_of_ordered s.store.ordered ht
      have hdrop := Store.filter_key_of_ordered s.store.ordered ht
      rw [hkey] at hfind hdrop
      have hsub' := Store.sublist_filter_ne_of_ordered s.store.ordered hsub
      obtain ⟨covered', s', hrun, hst, hset, hacc⟩ := ih (n + 1) (covered.extend t.range)
        { s with outages := { s.outages with deletes := s.outages.deletes + 1 },
                 store := s.store.filter (·.key != ⟨flow, t.stop⟩) }
        (by simp only [Store.segments_filter, hdrop]; exact hsub')
        (fun i hi => hflow i (List.mem_cons_of_mem t hi)) hdel
      refine ⟨covered', s', ?_, ?_, (s.settled_refl).trans hset, hacc⟩
      · simp only [removeContained, hc, Bool.not_true, Bool.false_eq_true, if_false, runOn_bind,
          runOn_step, runOn_remove, hcount, hfind, hrun, List.filter_cons, if_true,
          List.length_cons]
        rw [Nat.add_right_comm n 1, Nat.add_assoc]
      · rw [hst]
        refine Store.ext_of_segments ?_ rfl rfl
        simp only [Store.segments_filter, hdrop, List.filter_filter, List.filter_cons, hc, if_true]
        refine List.filter_congr fun x _ => ?_
        simp [Bool.and_comm]
    · -- the segment straddles the range and stays
      have hc' : r.contains t.range = false := by simpa using hc
      obtain ⟨covered', s', hrun, hst, hset, hacc⟩ := ih n covered s
        ((List.sublist_cons_self t rest).trans hsub) (fun i hi => hflow i (List.mem_cons_of_mem t hi))
        hdel
      refine ⟨covered', s', ?_, ?_, hset, hacc⟩
      · simp only [removeContained, hc', Bool.not_false, if_true, hrun, List.filter_cons,
          Bool.false_eq_true, if_false]
      · simp only [hst, List.filter_cons, hc', Bool.false_eq_true, if_false]

theorem runOn_query_quiet (q : SegmentQuery) {s : Service} (hq : s.outages.queryAfter = none) :
    ∃ s', (query q).runOn s = (.ok (.ok (s.store.query q)), s') ∧ s.Quiet s' ∧
      s'.outages.queryAfter = none :=
  ⟨_, runOn_query_of_up q hq, ⟨rfl, rfl, rfl, rfl, rfl⟩, hq⟩

/-- One page of the pass over an object's segments, from a cursor with keys in a calm state: it
removes what the range holds of the object's first `maxPageLimit` matches and counts them, then
stops if the page held every match, and else goes on past the page's last match. -/
theorem runOn_removeObjectPages_succ (flow object : String) (r : TimeRange) (ho : object ≠ "")
    (fuel n : Nat) (covered : TimeRange) {s : Service} (hs : s.Calm) (hne : c.isEmpty = false)
    (hk : c.Keyed) {ms : List Segment}
    (hms : s.store.queryMatches (objectQuery s.store flow object c) = ms) :
    ∃ covered' s', s.Settled s' ∧ s'.accepted = s.accepted ∧
      s'.store.segments =
        s.store.segments.filter (· ∉ (ms.take maxPageLimit.toNat).filter (r.contains ·.range)) ∧
      (ms.length ≤ maxPageLimit.toNat →
        (removeObjectPages flow object r (fuel + 1) c n covered).runOn s =
          (.ok (.ok (n + ((ms.take maxPageLimit.toNat).filter (r.contains ·.range)).length,
            covered')), s')) ∧
      ∀ L, (ms.take maxPageLimit.toNat).getLast? = some L → maxPageLimit.toNat < ms.length →
        (removeObjectPages flow object r (fuel + 1) c n covered).runOn s =
          (removeObjectPages flow object r fuel (r.intersect L.range.after)
            (n + ((ms.take maxPageLimit.toNat).filter (r.contains ·.range)).length)
            covered').runOn s' := by
  obtain ⟨s₁, hplan, ⟨hst₁, hqueue₁, hacc₁, hcfg₁, hset₁⟩, hqa₁⟩ :=
    runOn_plan_object flow object hne hk hs.queries
  obtain ⟨s₂, hquery, ⟨hst₂, hqueue₂, hacc₂, hcfg₂, hset₂⟩, -⟩ :=
    runOn_query_quiet (objectQuery s.store flow object c) hqa₁
  rw [hst₁] at hquery
  have hset : s.Settled s₂ := ⟨hcfg₂.trans hcfg₁, hset₂.trans hset₁, by rw [hqueue₂, hqueue₁]⟩
  have hstore : s₂.store = s.store := hst₂.trans hst₁
  have hpage := Store.query_page (Store.Indexed.ends64 hs.indexed)
    (q := objectQuery s.store flow object c)
    (by simp [objectQuery, plannedQuery, maxPageLimit])
  have hlimit : (objectQuery s.store flow object c).limit = maxPageLimit := by
    simp [objectQuery, plannedQuery, maxPageLimit]
  rw [hms, hlimit] at hpage
  by_cases hnil : ms = []
  · -- an empty page ends the loop
    subst hnil
    have hemp : (s.store.query (objectQuery s.store flow object c)).segments.isEmpty = true := by
      simp [hpage.1]
    refine ⟨covered, s₂, hset, hacc₂.trans hacc₁, by simp [hstore], fun _ => ?_, fun L hL => ?_⟩
    · simp only [removeObjectPages, hne, Bool.false_eq_true, if_false, runOn_bind, hplan,
        Bool.not_true, runOn_step, hquery, hemp, if_true, runOn_pure, List.take_nil,
        List.filter_nil, List.length_nil, Nat.add_zero]
    · simp at hL
  have hpage_ne : (ms.take maxPageLimit.toNat).isEmpty = false := by
    simp [hnil, maxPageLimit]
  have hmsub : ms.Sublist s.store.segments := hms ▸ objectQuery_sublist s.store flow object c
  have hflow : ∀ x ∈ ms.take maxPageLimit.toNat, x.flow = flow := fun x hx =>
    ((mem_objectQuery hs.indexed hk ho).1 (hms ▸ List.mem_of_mem_take hx)).2.1
  obtain ⟨cov₁, s₃, hrc, hst₃, hset₃, hacc₃⟩ := runOn_removeContained flow r
    (ms.take maxPageLimit.toNat) n covered s₂ (hstore ▸ (List.take_sublist _ _).trans hmsub) hflow
    ((congrArg Outages.deleteAfter hset.2.1).trans hs.deletes)
  rw [hstore] at hst₃
  -- the page limit as a number, so that omega can compare page sizes with it
  have hmax : maxPageLimit = 300 := rfl
  refine ⟨cov₁, s₃, hset.trans hset₃, hacc₃.trans (hacc₂.trans hacc₁), by rw [hst₃]; rfl,
    fun hle => ?_, fun L hL hmore => ?_⟩
  · -- the page holds every match, hands on no key, and the loop ends
    have hlk : (s.store.query (objectQuery s.store flow object c)).lastKey = none :=
      Option.not_isSome_iff_eq_none.1 fun h => by have := hpage.2.1 h; omega
    simp only [removeObjectPages, hne, Bool.false_eq_true, if_false, runOn_bind, hplan,
      Bool.not_true, runOn_step, hquery, hpage.1, hpage_ne, hrc, hlk, runOn_pure]
  · -- a full page hands on a key, and the loop goes on past the page's last match
    obtain ⟨key, hkey⟩ := Option.isSome_iff_exists.1 (hpage.2.2 (by omega))
    simp only [removeObjectPages, hne, Bool.false_eq_true, if_false, runOn_bind, hplan,
      Bool.not_true, runOn_step, hquery, hpage.1, hpage_ne, hrc, hkey, hL]

theorem runOn_removeObjectPages (flow object : String) (r : TimeRange) (ho : object ≠ "")
    (fuel : Nat) (c : TimeRange) (n : Nat) (covered : TimeRange) {s : Service} (hs : s.Calm)
    (hc : r.IsCursor c) {ms : List Segment} (hms : objectPending s.store flow object c = ms)
    (hfuel : batchCount ms.length maxPageLimit.toNat ≤ fuel) :
    ∃ covered' s', (removeObjectPages flow object r fuel c n covered).runOn s =
        (.ok (.ok (n + (ms.filter (r.contains ·.range)).length, covered')), s') ∧
      s'.store.segments = s.store.segments.filter (· ∉ ms.filter (r.contains ·.range)) ∧
      s.Settled s' ∧ s'.accepted = s.accepted := by
  -- the induction is on the fuel, one page a step; the cursor and what is left move with it
  induction fuel generalizing c n covered s ms with
  | zero => exact absurd hfuel (by have := @one_le_batchCount ms.length maxPageLimit.toNat; omega)
  | succ fuel ih =>
  rcases hc with he | ⟨hne, hk, hT, hend⟩
  · -- from an empty cursor nothing is read
    obtain rfl : ms = [] := by rw [← hms, objectPending, if_pos he]
    exact ⟨covered, s, by simp [removeObjectPages, he], by simp, s.settled_refl, rfl⟩
  have hms' : s.store.queryMatches (objectQuery s.store flow object c) = ms := by
    rw [← hms, objectPending, if_neg (by simp [hne])]
  obtain ⟨cov₁, s₃, hset₃, hacc₃, hseg₃, hstop, hnext⟩ :=
    runOn_removeObjectPages_succ flow object r ho fuel n covered hs hne hk hms'
  by_cases hle : ms.length ≤ maxPageLimit.toNat
  · -- the first page holds every match
    rw [List.take_of_length_le hle] at hseg₃ hstop
    exact ⟨cov₁, s₃, hstop hle, hseg₃, hset₃, hacc₃⟩
  have hpos : 0 < maxPageLimit.toNat := by decide
  have hmore : maxPageLimit.toNat < ms.length := not_le.1 hle
  have htake : ms.take maxPageLimit.toNat ≠ [] :=
    List.ne_nil_of_length_pos (by rw [List.length_take]; omega)
  obtain ⟨L, hL⟩ := Option.isSome_iff_exists.1 (List.getLast?_isSome.2 htake)
  have hLm : L ∈ ms.take maxPageLimit.toNat := List.mem_of_getLast? hL
  obtain ⟨x, hx⟩ := List.exists_mem_of_ne_nil (ms.drop maxPageLimit.toNat)
    (by simp only [ne_eq, List.drop_eq_nil_iff, not_le]; exact hmore)
  have hLx : L.stop < x.stop := by
    have hp : ms.Pairwise fun a b => a.stop < b.stop := hms' ▸ objectQuery_pairwise
    rw [← List.take_append_drop maxPageLimit.toNat ms, List.pairwise_append] at hp
    exact hp.2.2 L hLm x hx
  have hbatch : ∀ y ∈ ms, y ∈ batchMatches s.store flow maxPageLimit c := fun y hy =>
    mem_batchMatches_of_objectQuery hs.indexed hk ho maxPageLimit (hms' ▸ hy)
  have hnc := isCursor_after hs.indexed hk hne hT hend (hbatch L (List.mem_of_mem_take hLm))
    (hbatch x (List.mem_of_mem_drop hx)) hLx
  have hpend : objectPending s₃.store flow object (r.intersect L.range.after) =
      ms.drop maxPageLimit.toNat := by
    have h := objectPending_next hs.indexed hk hne hT hend ho (by rw [hms']; exact hmore)
      (by rw [hms']; exact hL) (D := (ms.take maxPageLimit.toNat).filter (r.contains ·.range))
      (fun y hy => by rw [hms']; exact (List.mem_filter.1 hy).1) hseg₃
    rwa [hms'] at h
  have hcalm : s₃.Calm := hs.of_settled hset₃ (by rw [hseg₃]; exact List.filter_sublist)
  have hfuel' : batchCount (ms.drop maxPageLimit.toNat).length maxPageLimit.toNat ≤ fuel := by
    have hcount := batchCount_of_lt hpos hmore
    rw [List.length_drop]
    omega
  obtain ⟨cov', s', hrun', hseg', hset', hacc'⟩ := ih (r.intersect L.range.after) _ cov₁ hcalm
    (.inr hnc) hpend hfuel'
  have hsplit : ms.filter (r.contains ·.range) =
      (ms.take maxPageLimit.toNat).filter (r.contains ·.range) ++
        (ms.drop maxPageLimit.toNat).filter (r.contains ·.range) := by
    rw [← List.filter_append, List.take_append_drop]
  refine ⟨cov', s', ?_, ?_, hset₃.trans hset', hacc'.trans hacc₃⟩
  · rw [hnext L hL hmore, hrun', hsplit, List.length_append, Nat.add_assoc]
  · rw [hseg', hseg₃, hsplit]
    exact filter_notMem_filter_notMem_append _ _ _

theorem objectPending_filter_contains (hidx : Store.Indexed st.segments) (ho : object ≠ "")
    (hr : r.isEmpty = true ∨ r.Keyed) :
    (objectPending st flow object r).filter (r.contains ·.range) =
      st.segments.filter fun x => x.flow = flow ∧ x.object = object ∧ r.contains x.range = true := by
  cases he : r.isEmpty
  case false =>
    have hk := hr.resolve_left (by simp [he])
    rw [objectPending, if_neg (by simp [he])]
    refine eq_of_sublist_of_mem_iff (List.filter_sublist.trans (objectQuery_sublist st flow object r))
      List.filter_sublist (Store.Ordered.nodup hidx.ordered) fun x => ?_
    simp only [List.mem_filter, mem_objectQuery hidx hk ho, decide_eq_true_eq]
    constructor
    · rintro ⟨⟨hx, hf, hxo, -⟩, hc⟩
      exact ⟨hx, hf, hxo, hc⟩
    · rintro ⟨hx, hf, hxo, hc⟩
      exact ⟨⟨hx, hf, hxo, meetsOnGrid_of_contains hidx hx hk hc⟩, hc⟩
  case true =>
    rw [objectPending, if_pos he, List.filter_nil, eq_comm, List.filter_eq_nil_iff]
    intro x hx hp
    obtain ⟨-, -, hc⟩ := of_decide_eq_true hp
    obtain ⟨hne, -⟩ := Segment.keysOf_eq_ok.1 (hidx.keyed x hx)
    simp [isEmpty_of_contains hc hne] at he

/-- Removing an object's segments in a calm state from a range that is empty or has keys removes
what the range holds of the object's matches, answers their number, and hands the object to
cleanup in one task exactly when some went. -/
theorem runOn_deleteObjectSegments (flow object : String) (r : TimeRange) (ho : object ≠ "")
    {s : Service} (hs : s.Calm) (hr : r.isEmpty = true ∨ r.Keyed) :
    let gone := (objectPending s.store flow object r).filter (r.contains ·.range)
    ∃ s', (deleteObjectSegments flow object r).runOn s = (.ok (.ok gone.length), s') ∧
      s'.store.segments = s.store.segments.filter (· ∉ gone) ∧ s.Settled s' ∧
      ((s'.accepted.drop s.accepted.length).map Task.work).filter (·.1 = objectCleanupTask) =
        if gone = [] then [] else [(objectCleanupTask, (cleanupDoc [object]).render)] := by
  intro gone
  have hc : r.IsCursor r := by
    cases he : r.isEmpty
    · exact .inr ⟨he, hr.resolve_left (by simp [he]), contains_self r, rfl⟩
    · exact .inl he
  have hfuel : batchCount (objectPending s.store flow object r).length maxPageLimit.toNat ≤
      s.store.segments.length + 1 :=
    (batchCount_le (by decide)).trans
      (Nat.add_le_add_right (objectPending_sublist s.store flow object r).length_le 1)
  obtain ⟨cov, s₁, hloop, hseg₁, hset₁, hacc₁⟩ := runOn_removeObjectPages flow object r ho
    (s.store.segments.length + 1) r 0 TimeRange.never hs hc rfl hfuel
  have hgone : (objectPending s.store flow object r).filter (r.contains ·.range) = gone := rfl
  rw [hgone] at hloop hseg₁
  simp only [deleteObjectSegments, runOn_bind, runOn_get, hloop, Nat.zero_add]
  by_cases hz : gone = []
  · -- nothing went, so nothing is touched or handed on
    rw [hz] at hseg₁ ⊢
    simp only [List.length_nil, if_true, runOn_pure]
    exact ⟨s₁, rfl, hseg₁, hset₁, by simp [hacc₁]⟩
  have hlen : gone.length ≠ 0 := fun h => hz (List.eq_nil_of_length_eq_zero h)
  obtain ⟨st₂, htouch, hseg₂, -⟩ := runOn_touchFlow_quiet flow s₁
  rw [if_neg hlen]
  simp only [touch, runOn_bind, htouch, forgetFlow, runOn_modify, segmentsDeleted]
  obtain ⟨s₃, p, ts, hemit, hacc₃, hwork₃, -, -, -, -, hst₃, hcfg₃, hout₃, hup₃⟩ :=
    runOn_emit segmentsDeletedEvent flow cov.toText gone.length
      { s₁ with clock := s₁.clock + 1, store := st₂, flows := s₁.flows.erase flow }
      (hs.tasks.of_settled hset₁)
  have hfit : (Cleanup.arraySize [object] : Int) + max (s₃.config.maxMessageSize - cleanupEnvelope) 1 ≤
      2 ^ 63 := by
    obtain ⟨x, hx⟩ := List.exists_mem_of_ne_nil gone hz
    rw [hgone.symm.trans (objectPending_filter_contains hs.indexed ho hr), List.mem_filter] at hx
    obtain ⟨hxs, hxo⟩ : x ∈ s.store.segments ∧ x.object = object := by
      simp only [decide_eq_true_eq] at hx
      exact ⟨hx.1, hx.2.2.1⟩
    have hsub : [object].Sublist (s.store.segments.map (·.object)) :=
      List.singleton_sublist.2 (hxo ▸ List.mem_map_of_mem hxs)
    rw [hcfg₃, show s₁.config = s.config from hset₁.1]
    exact le_trans (by simpa using Cleanup.arraySize_le hsub) hs.fits
  obtain ⟨bs, hpack⟩ := Cleanup.pack_ok (lt_max_of_lt_right one_pos) hfit
  have hd := runOn_dispatch [object] s₃ hup₃
  rw [hpack] at hd
  obtain ⟨s₄, ts', hdisp, hacc₄, hwork₄, hst₄, hcfg₄, hout₄, hup₄⟩ := hd
  rw [Cleanup.pack_singleton hpack] at hwork₄
  simp only [hemit, runOn_step, hdisp, runOn_pure]
  refine ⟨s₄, rfl, ?_, ?_, ?_⟩
  · rw [hst₄, hst₃, ← hseg₁]
    exact hseg₂
  · exact ⟨hcfg₄.trans (hcfg₃.trans hset₁.1),
      (congrArg Outages.settings (hout₄.trans hout₃)).trans hset₁.2.1, hup₄.1.trans hs.tasks.1.symm⟩
  · rw [hacc₄, hacc₃, List.append_assoc]
    simp only [hacc₁, List.drop_left, List.map_append, hwork₃, hwork₄, cleanupWork, List.filter_append,
      hz, if_false]
    split_ifs <;> simp [eventTask, objectCleanupTask]

/-- Deleting the segments of one object of a writable flow, in a calm state whose flow cache
agrees with the table, from a range that is empty or has keys (the whole timeline when none is
given), removes exactly the flow's segments of that object that the range holds, keeps every
other segment, answers their number without a request, and queues one cleanup task for the object
exactly when some went. -/
theorem delete_object_segments_exact (flow object createdBy : String) (range : Option TimeRange)
    {s : Service} (hs : s.Calm) (hcache : s.FlowsCached) (hread : s.outages.getFlow = false)
    {f : Flow} (hw : s.store.writableFlow flow = .ok f) (ho : object ≠ "")
    (hr : (range.getD eternity).isEmpty = true ∨ (range.getD eternity).Keyed) :
    let gone := s.store.segments.filter fun x =>
      x.flow = flow ∧ x.object = object ∧ (range.getD eternity).contains x.range = true
    ∃ out s', (deleteSegments flow range object createdBy).runOn s = (.ok (.ok out), s') ∧
      out.deleted = gone.length ∧ out.request = none ∧
      s'.store.segments = s.store.segments.filter (· ∉ gone) ∧
      ((s'.accepted.drop s.accepted.length).map Task.work).filter (·.1 = objectCleanupTask) =
        if gone = [] then [] else [(objectCleanupTask, (cleanupDoc [object]).render)] := by
  intro gone
  have hflow := runOn_of_triple (writableFlow_table s flow) s ⟨rfl, hcache, hread⟩
  rcases hrun : (writableFlow flow).runOn s with ⟨(c | (e | f')), s₁⟩
  all_goals rw [hrun] at hflow
  · exact hflow.elim
  · exact absurd (hflow.1.symm.trans hw) (by simp)
  obtain ⟨-, hst₁, hqueue₁, hacc₁, hcfg₁, hset₁⟩ := hflow
  have hsettled₁ : s.Settled s₁ := ⟨hcfg₁, hset₁, by rw [hqueue₁]⟩
  have hcalm₁ : s₁.Calm := hs.of_settled hsettled₁ (by rw [hst₁])
  have hgone : (objectPending s₁.store flow object (range.getD eternity)).filter
      ((range.getD eternity).contains ·.range) = gone := by
    rw [hst₁]
    exact objectPending_filter_contains hs.indexed ho hr
  obtain ⟨s', hdel, hseg, -, htasks⟩ :=
    runOn_deleteObjectSegments flow object (range.getD eternity) ho hcalm₁ hr
  rw [hgone] at hdel hseg htasks
  have hne : object.isEmpty = false := by simpa using ho
  refine ⟨{ deleted := gone.length }, s', ?_, rfl, rfl, by rw [hseg, hst₁], by rwa [hacc₁] at htasks⟩
  simp only [deleteSegments, runOn_bind, runOn_discard, hrun, hne, Bool.not_false, if_true,
    hdel]
  rfl

/-- Of three one-second segments, the first and the last of object `a` and the middle one of
object `b`, deleting object `a` over the first two and a half seconds removes the first segment
only: the last straddles the range's end. -/
theorem delete_object_segments_exact_straddle :
    let seg (o : String) (k : Int) : Segment :=
      ⟨"f", o, ⟨some ⟨⟨k * 1000000000⟩, true⟩, some ⟨⟨(k + 1) * 1000000000⟩, false⟩⟩, "", "",
        none, none, none, [], k * 1000000000, (k + 1) * 1000000000 - 1⟩
    let tr : TimeRange := ⟨some ⟨⟨0⟩, true⟩, some ⟨⟨2500000000⟩, false⟩⟩
    let s : Service := { store := { segments := [seg "a" 0, seg "b" 1, seg "a" 2],
                                    byObject := [seg "a" 0, seg "a" 2, seg "b" 1],
                                    flows := [{ id := "f" }] } }
    s.Calm ∧ s.FlowsCached ∧ s.outages.getFlow = false ∧ s.store.writableFlow "f" = .ok { id := "f" } ∧
      ("a" : String) ≠ "" ∧ tr.Keyed ∧
      ∃ out s', (deleteSegments "f" (some tr) "a" "").runOn s = (.ok (.ok out), s') ∧
        out.deleted = 1 ∧ out.request = none ∧ s'.store.segments = [seg "b" 1, seg "a" 2] ∧
        ((s'.accepted.drop s.accepted.length).map Task.work).filter (·.1 = objectCleanupTask) =
          [(objectCleanupTask, (cleanupDoc ["a"]).render)] := by
  intro seg tr s
  have hidx : s.Indexed := by decide
  have hcalm : s.Calm := ⟨hidx, rfl, rfl, rfl, ⟨rfl, rfl⟩, by decide⟩
  have hcache : s.FlowsCached := fun k e he => by cases he
  have hk : tr.Keyed := ⟨.inr ⟨0, by decide⟩, .inr ⟨2499999999, by decide⟩⟩
  obtain ⟨out, s', hrun, hd, hreq, hseg, htasks⟩ := delete_object_segments_exact "f" "a" "" (some tr)
    hcalm hcache rfl (f := { id := "f" }) rfl (by decide) (.inr hk)
  refine ⟨hcalm, hcache, rfl, rfl, by decide, hk, out, s', hrun, ?_, hreq, ?_, ?_⟩
  · rw [hd]
    decide
  · rw [hseg]
    decide
  · rw [htasks]
    decide

end ServiceM

end MediaTimeline
