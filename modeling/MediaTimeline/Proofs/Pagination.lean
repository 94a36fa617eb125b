import Mathlib
import MediaTimeline.Proofs.TreeScan

/-! Reading a query page by page, each page past the last key of the one before: with a positive
limit the pages give back every match of the query once, in order. -/

namespace MediaTimeline

namespace SegmentQuery

variable {q : SegmentQuery} {a b c : Int} {s x : Segment}

def ahead (q : SegmentQuery) (a b : Int) : Prop := if q.reverse then b < a else a < b

instance (q : SegmentQuery) (a b : Int) : Decidable (q.ahead a b) :=
  inferInstanceAs (Decidable (if q.reverse then b < a else a < b))

theorem ahead_irrefl (a : Int) : ¬ q.ahead a a := by
  unfold ahead
  split <;> omega

theorem ahead_trans (h₁ : q.ahead a b) (h₂ : q.ahead b c) : q.ahead a c := by
  unfold ahead at *
  cases hr : q.reverse <;> simp only [hr, Bool.false_eq_true, if_false, if_true] at * <;> omega

theorem not_ahead_of_ahead (h : q.ahead a b) : ¬ q.ahead b a := by
  unfold ahead at *
  cases hr : q.reverse <;> simp only [hr, Bool.false_eq_true, if_false, if_true] at * <;> omega

theorem pastStart_eq (q : SegmentQuery) (s : Segment) :
    q.pastStart s = q.after.all fun k => decide (q.ahead k.stop s.stop) := by
  unfold pastStart ahead
  congr 1
  funext k
  split <;> rfl

theorem pastStart_of_ahead (hx : q.pastStart x = true) (h : q.ahead x.stop s.stop) :
    q.pastStart s = true := by
  rw [pastStart_eq] at hx ⊢
  cases hk : q.after with
  | none => rfl
  | some k =>
    rw [hk, Option.all_some, decide_eq_true_eq] at hx
    rw [Option.all_some, decide_eq_true_eq]
    exact ahead_trans hx h

end SegmentQuery

namespace Store

def Ordered (st : Store) : Prop := st.segments.Pairwise fun a b => a.key.before b.key

variable {st : Store} {q : SegmentQuery} {x : Segment}

theorem pairwise_queryMatches (st : Store) (q : SegmentQuery) :
    (st.queryMatches q).Pairwise fun a b => q.ahead a.stop b.stop := by
  have hwalk : (if q.reverse then st.segments.reverse else st.segments).Pairwise
      fun a b => a.flow = b.flow → q.ahead a.stop b.stop := by
    cases hr : q.reverse
    · simp only [Bool.false_eq_true, if_false, SegmentQuery.ahead, hr]
      exact st.ordered.imp fun hab hf => SegmentKey.stop_lt_of_before hab hf
    · simp only [if_true, SegmentQuery.ahead, hr]
      exact List.pairwise_reverse.2 (st.ordered.imp fun {a b} hab (hf : b.flow = a.flow) =>
        SegmentKey.stop_lt_of_before hab hf.symm)
  unfold queryMatches
  refine (hwalk.filter _).imp_of_mem fun ha hb hab => hab ?_
  rw [List.mem_filter, Bool.and_eq_true] at ha hb
  exact (SegmentQuery.flow_of_selects ha.2.1).trans (SegmentQuery.flow_of_selects hb.2.1).symm

theorem queryMatches_after (hx : x ∈ st.queryMatches q) :
    st.queryMatches { q with after := some x.key } =
      (st.queryMatches q).filter fun s => decide (q.ahead x.stop s.stop) := by
  have hpast := (mem_queryMatches.1 hx).2.2
  unfold queryMatches
  rw [List.filter_filter]
  refine List.filter_congr fun s _ => ?_
  have hsel : ({ q with after := some x.key } : SegmentQuery).selects s = q.selects s := rfl
  have hnew : ({ q with after := some x.key } : SegmentQuery).pastStart s =
      decide (q.ahead x.stop s.stop) := by
    rw [SegmentQuery.pastStart_eq]
    rfl
  rw [hsel, hnew]
  by_cases ha : q.ahead x.stop s.stop
  · simp [ha, SegmentQuery.pastStart_of_ahead hpast ha]
  · simp [ha]

theorem filter_ahead_eq_drop {l : List Segment} (h : l.Pairwise fun a b => q.ahead a.stop b.stop)
    {n : Nat} (hx : (l.take n).getLast? = some x) :
    l.filter (fun s => decide (q.ahead x.stop s.stop)) = l.drop n := by
  obtain ⟨init, hinit⟩ := List.getLast?_eq_some_iff.1 hx
  rw [← List.take_append_drop n l, List.pairwise_append] at h
  have hxt : x ∈ l.take n := by simp [hinit]
  have hnot : ∀ y ∈ l.take n, ¬ q.ahead x.stop y.stop := by
    intro y hy
    have hpre := h.1
    rw [hinit, List.pairwise_append] at hpre
    rw [hinit, List.mem_append, List.mem_singleton] at hy
    rcases hy with hy | rfl
    · exact SegmentQuery.not_ahead_of_ahead (hpre.2.2 y hy x (List.mem_singleton_self x))
    · exact SegmentQuery.ahead_irrefl _
  have hall : ∀ z ∈ l.drop n, q.ahead x.stop z.stop := fun z hz => h.2.2 x hxt z hz
  conv_lhs => rw [← List.take_append_drop n l]
  rw [List.filter_append, List.filter_eq_nil_iff.2 fun y hy => by simpa using hnot y hy,
    List.filter_eq_self.2 fun z hz => by simpa using hall z hz, List.nil_append]

/-- The segments of a query's pages read one after another, each page past the last key of the
page before, for at most `fuel` pages; `none` when the pages do not end within them. -/
def readPages (st : Store) (q : SegmentQuery) : Nat → Option (List Segment)
  | 0 => none
  | fuel + 1 =>
    match (st.query q).lastKey with
    | none => some (st.query q).segments
    | some k => (st.readPages { q with after := some k } fuel).map ((st.query q).segments ++ ·)

/-- Read page by page, a query with a positive limit ends within one page more than it has
matches, and gives back all its matches in order. -/
theorem readPages_eq (h : st.Ends64) (hq : 0 < q.limit) {fuel : Nat}
    (hfuel : (st.queryMatches q).length < fuel) :
    st.readPages q fuel = some (st.queryMatches q) := by
  induction fuel generalizing q with
  | zero => omega
  | succ fuel ih =>
    rw [readPages, query_eq h, SegmentQuery.pageLimit_of_pos hq]
    split_ifs with hmore
    · -- a full page, then the pages past its last match
      have hpage : (st.queryMatches q).take q.limit.toNat ≠ [] :=
        List.ne_nil_of_length_pos (by rw [List.length_take]; omega)
      obtain ⟨x, hx⟩ := Option.isSome_iff_exists.1 (List.getLast?_isSome.2 hpage)
      have hxm : x ∈ st.queryMatches q := List.mem_of_mem_take (List.mem_of_getLast? hx)
      have hrest : st.queryMatches { q with after := some x.key } =
          (st.queryMatches q).drop q.limit.toNat := by
        rw [queryMatches_after hxm, filter_ahead_eq_drop (pairwise_queryMatches st q) hx]
      have hnext := ih (q := { q with after := some x.key }) hq
        (by rw [hrest, List.length_drop]; omega)
      simp only [hx, Option.map_some, hnext, hrest, List.take_append_drop]
    · rfl

end Store

end MediaTimeline
