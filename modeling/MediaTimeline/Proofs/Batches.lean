import Mathlib
import MediaTimeline.Proofs.TreeScan
import MediaTimeline.Proofs.RangeContainment
import MediaTimeline.Deletion.Trim

/-! The segments a batch of a delete request removes. -/

namespace MediaTimeline

variable {α : Type} {r : TimeRange} {f : α → TimeRange} {x : α}

theorem mem_trimEnds {items : List α} (hx : x ∈ trimEnds r f items) :
    r.contains (f x) = true ∨ x ∈ items.tail.dropLast := by
  match items, hx with
  | [a], hx =>
    simp only [trimEnds, List.getLast?_singleton, List.length_singleton, gt_iff_lt,
      Nat.lt_irrefl, decide_false, Bool.false_and, Bool.false_eq_true, if_false] at hx
    split_ifs at hx with ha
    · rw [List.mem_singleton] at hx
      exact .inl (hx ▸ ha)
    · simp at hx
  | a :: b :: rest, hx =>
    have hne : b :: rest ≠ [] := List.cons_ne_nil b rest
    simp only [trimEnds, List.getLast?_cons_cons, List.getLast?_eq_some_getLast hne] at hx
    rw [List.tail_cons]
    by_cases hl : r.contains (f ((b :: rest).getLast hne)) = true
    · -- the last item stays, and only the first can go
      simp only [hl, Bool.not_true, Bool.and_false, Bool.false_eq_true, if_false] at hx
      have hmid : x ∈ b :: rest → r.contains (f x) = true ∨ x ∈ (b :: rest).dropLast := by
        intro hm
        rw [← List.dropLast_append_getLast hne, List.mem_append, List.mem_singleton] at hm
        rcases hm with hm | rfl
        · exact .inr hm
        · exact .inl hl
      split_ifs at hx with ha
      · rcases List.mem_cons.1 hx with rfl | hx
        · exact .inl ha
        · exact hmid hx
      · exact hmid hx
    · -- the last item goes
      simp only [hl, Bool.not_false, Bool.and_true, List.length_cons] at hx
      simp only [show rest.length + 1 + 1 > 1 by omega, decide_true, if_true,
        List.dropLast_cons_cons] at hx
      split_ifs at hx with ha
      · rcases List.mem_cons.1 hx with rfl | hx
        · exact .inl ha
        · exact .inr hx
      · exact .inr hx

theorem trimEnds_sublist (items : List α) : (trimEnds r f items).Sublist items := by
  match items with
  | [] => simp [trimEnds]
  | [a] =>
    simp only [trimEnds, List.getLast?_singleton, List.length_singleton, gt_iff_lt,
      Nat.lt_irrefl, decide_false, Bool.false_and, Bool.false_eq_true, if_false]
    split_ifs <;> simp
  | a :: b :: rest =>
    have hne : b :: rest ≠ [] := List.cons_ne_nil b rest
    simp only [trimEnds, List.getLast?_cons_cons, List.getLast?_eq_some_getLast hne]
    by_cases hl : r.contains (f ((b :: rest).getLast hne)) = true
    · simp only [hl, Bool.not_true, Bool.and_false, Bool.false_eq_true, if_false]
      split_ifs
      · exact List.Sublist.refl _
      · exact List.sublist_cons_self a _
    · simp only [hl, Bool.not_false, Bool.and_true, List.length_cons,
        show rest.length + 1 + 1 > 1 by omega, decide_true, if_true, List.dropLast_cons_cons]
      split_ifs
      · exact (List.dropLast_sublist _).cons_cons a
      · exact (List.dropLast_sublist _).trans (List.sublist_cons_self a _)

theorem exists_around_of_mem_middle {R : α → α → Prop} {l : List α} (h : l.Pairwise R)
    (hx : x ∈ l.tail.dropLast) : ∃ a ∈ l, ∃ z ∈ l, R a x ∧ R x z := by
  cases l with
  | nil => simp at hx
  | cons a t =>
    rw [List.tail_cons] at hx
    have hne : t ≠ [] := List.ne_nil_of_mem (List.dropLast_subset t hx)
    rw [List.pairwise_cons] at h
    have ht := h.2
    rw [← List.dropLast_append_getLast hne, List.pairwise_append] at ht
    refine ⟨a, List.mem_cons_self, t.getLast hne, List.mem_cons_of_mem a (List.getLast_mem hne),
      h.1 x (List.dropLast_subset t hx), ?_⟩
    exact ht.2.2 x hx _ (List.mem_singleton_self _)

namespace Store

variable {st : Store} {q : SegmentQuery} {L : List Segment} {s : Segment}

theorem query_sublist (hr : q.reverse = false) : (st.query q).segments.Sublist st.segments := by
  refine (sublist_walk q).trans ?_
  simp only [hr, Bool.false_eq_true, if_false]
  exact List.filter_sublist

theorem Indexed.eq_of_key_eq (h : Indexed L) {a b : Segment} (ha : a ∈ L) (hb : b ∈ L)
    (hk : a.key = b.key) : a = b := by
  by_contra hne
  have hab := h.apart a ha b hb hne
  exact hab (Segment.overlaps_of_key_eq hk (h.startLeStop a ha) (h.startLeStop b hb))

end Store

theorem TimeRange.ends_of_isEternity {r : TimeRange} (h : r.isEternity = true) :
    r.isEmpty = false ∧ r.lower = none ∧ r.upper = none := by
  simp only [TimeRange.isEternity, Bool.and_eq_true, Option.isNone_iff_eq_none] at h
  simp [TimeRange.isEmpty, h.1, h.2]

def SegmentQuery.Bounds (q : SegmentQuery) (c : TimeRange) : Prop :=
  c.isEmpty = false ∧
    (c.lower.isSome → ∃ a, c.startKey = .ok a ∧ q.endMin = some a) ∧
    (c.upper.isSome → ∃ b, c.stopKey = .ok b ∧ q.startMax = some b)

theorem trimEnds_query_contained {T c : TimeRange} {st : Store} {q : SegmentQuery}
    {L : List Segment} (hL : Store.Indexed L) (hst : st.segments.Sublist L)
    (hT : T.contains c = true) (hb : q.Bounds c) (hr : q.reverse = false) {x : Segment}
    (hx : x ∈ trimEnds T (·.range) (st.query q).segments) : T.contains x.range = true := by
  rcases mem_trimEnds hx with h | hmid
  · exact h
  have hsub : (st.query q).segments.Sublist L := (Store.query_sublist hr).trans hst
  have hpage := hL.sublist hsub
  obtain ⟨a, ha, z, hz, hax, hxz⟩ := exists_around_of_mem_middle hpage.pairwise_stop_lt_start hmid
  have hxm : x ∈ (st.query q).segments := List.mem_of_mem_tail (List.dropLast_subset _ hmid)
  have hsa := Store.selects_of_mem_query ha
  have hsx := Store.selects_of_mem_query hxm
  have hsz := Store.selects_of_mem_query hz
  simp only [SegmentQuery.selects, Bool.and_eq_true, beq_iff_eq] at hsa hsx hsz
  have hax := hax (hsa.1.1.1.1.trans hsx.1.1.1.1.symm)
  have hxz := hxz (hsx.1.1.1.1.trans hsz.1.1.1.1.symm)
  have hcx : c.contains x.range = true := by
    refine TimeRange.contains_of_keys hb.1 (hpage.keyed x hxm) (fun hl => ?_) (fun hu => ?_)
    · obtain ⟨k, hk, he⟩ := hb.2.1 hl
      refine ⟨k, hk, ?_⟩
      have := hsa.1.1.2
      simp only [he, Option.all_some, decide_eq_true_eq] at this
      omega
    · obtain ⟨k, hk, he⟩ := hb.2.2 hu
      refine ⟨k, hk, ?_⟩
      have := hsz.2
      simp only [he, Option.all_some, decide_eq_true_eq] at this
      omega
  exact TimeRange.contains_trans hT hcx

/-- ... and removing a kept item by its key, in its flow, removes a segment in the range to
delete: the kept items are stored ones, and a key names one segment of an indexed list. -/
theorem trimEnds_query_keys {T c : TimeRange} {st : Store} {q : SegmentQuery} {L : List Segment}
    (hL : Store.Indexed L) (hst : st.segments.Sublist L) (hT : T.contains c = true)
    (hb : q.Bounds c) (hr : q.reverse = false) :
    ∀ i ∈ trimEnds T (·.range) (st.query q).segments, ∀ x ∈ L, x.key = ⟨q.flow, i.stop⟩ →
      T.contains x.range = true := by
  intro i hi x hx hk
  have him : i ∈ (st.query q).segments := (trimEnds_sublist _).subset hi
  have hiL : i ∈ L := hst.subset ((Store.query_sublist hr).subset him)
  have hflow : i.flow = q.flow := SegmentQuery.flow_of_selects (Store.selects_of_mem_query him)
  have hxi : x = i := hL.eq_of_key_eq hx hiL (by rw [hk, Segment.key, hflow])
  exact hxi ▸ trimEnds_query_contained hL hst hT hb hr hi

end MediaTimeline
