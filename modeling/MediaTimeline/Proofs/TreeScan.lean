import Mathlib
import MediaTimeline.Proofs.SegmentIndex

/-! The range scan of a query, and the matches it answers. -/

namespace MediaTimeline

namespace SegmentQuery

variable {q : SegmentQuery} {s : Segment}

def pastStart (q : SegmentQuery) (s : Segment) : Bool :=
  q.after.all fun k => if q.reverse then decide (s.stop < k.stop) else decide (k.stop < s.stop)

theorem pageLimit_pos (q : SegmentQuery) : 0 < q.pageLimit := by
  unfold pageLimit int64Max
  split <;> omega

theorem pageLimit_of_pos (hq : 0 < q.limit) : q.pageLimit = q.limit := by
  simp [pageLimit, show ¬ q.limit ≤ 0 by omega]

theorem pageLimit_of_nonpos (hq : q.limit ≤ 0) : q.pageLimit = int64Max := by
  simp [pageLimit, hq]

theorem selects_iff : q.selects s = true ↔ s.flow = q.flow ∧ (q.object = "" ∨ s.object = q.object) ∧
    (∀ m ∈ q.endMin, m ≤ s.stop) ∧ (∀ m ∈ q.endMax, s.stop ≤ m) ∧
      ∀ m ∈ q.startMax, s.start ≤ m := by
  simp [selects, Option.all_eq_true, and_assoc]

theorem flow_of_selects (h : q.selects s = true) : s.flow = q.flow := (selects_iff.1 h).1

theorem selects_eq_false_of_leaves (h : q.leaves s = true) : q.selects s = false := by
  obtain ⟨f, o, lo, hi, sm, rev, lim, after⟩ := q
  unfold leaves at h
  unfold selects
  cases rev <;> cases lo <;> cases hi <;> simp_all <;> grind

theorem startEnd_iff {e : Int} (he : q.startEnd = some e) (hs : q.selects s = true)
    (h64 : IsInt64 s.stop) :
    (if q.reverse then s.stop ≤ e else e ≤ s.stop) ↔ q.pastStart s = true := by
  obtain ⟨f, o, lo, hi, sm, rev, lim, after⟩ := q
  unfold IsInt64 int64Min int64Max at h64
  unfold startEnd int64Min int64Max at he
  unfold selects at hs
  unfold pastStart
  cases rev <;> cases lo <;> cases hi <;> cases after <;> simp_all <;> grind

theorem pastStart_eq_false (he : q.startEnd = none) (h64 : IsInt64 s.stop) :
    q.pastStart s = false := by
  obtain ⟨f, o, lo, hi, sm, rev, lim, after⟩ := q
  unfold IsInt64 int64Min int64Max at h64
  unfold startEnd int64Min int64Max at he
  unfold pastStart
  cases rev <;> cases after <;> simp_all

end SegmentQuery

namespace Store

def Ends64 (st : Store) : Prop := ∀ s ∈ st.segments, IsInt64 s.stop

def queryMatches (st : Store) (q : SegmentQuery) : List Segment :=
  (if q.reverse then st.segments.reverse else st.segments).filter fun s =>
    q.selects s && q.pastStart s

/-- The end a scan starts from keeps, of what the query selects, what lies past its start key;
with no end to start from, nothing lies past it. -/
def StartsAt (st : Store) (q : SegmentQuery) : Option Int → Prop
  | some e => ∀ t ∈ st.segments, q.selects t = true →
      ((if q.reverse then t.stop ≤ e else e ≤ t.stop) ↔ q.pastStart t = true)
  | none => ∀ t ∈ st.segments, q.selects t = true → q.pastStart t = false

variable {st : Store} {q : SegmentQuery} {s x : Segment} {l : List Segment}

theorem startsAt_startEnd (h : st.Ends64) (q : SegmentQuery) : st.StartsAt q q.startEnd := by
  cases he : q.startEnd with
  | none => exact fun t ht _ => SegmentQuery.pastStart_eq_false he (h t ht)
  | some e => exact fun t ht hs => SegmentQuery.startEnd_iff he hs (h t ht)

theorem startsAt_of_endMin {m : Int} (hr : q.reverse = false) (ha : q.after = none)
    (hm : q.endMin = some m) : st.StartsAt q q.startEnd := by
  simp only [SegmentQuery.startEnd, hr, ha, hm, Bool.false_eq_true, if_false, Option.getD_some]
  intro t _ hs
  simp [SegmentQuery.pastStart, ha, hr, (SegmentQuery.selects_iff.1 hs).2.2.1 m hm]

theorem length_queryMatches_le (st : Store) (q : SegmentQuery) :
    (st.queryMatches q).length ≤ st.segments.length := by
  unfold queryMatches
  split
  · exact (List.length_filter_le _ _).trans_eq List.length_reverse
  · exact List.length_filter_le _ _

theorem mem_queryMatches :
    s ∈ st.queryMatches q ↔ s ∈ st.segments ∧ q.selects s ∧ q.pastStart s := by
  unfold queryMatches
  split_ifs <;> simp

/-! Walking a tree in order. -/

theorem dropWhile_eq_filter {p : Segment → Bool} (h : l.Pairwise fun a b => p b → p a) :
    l.dropWhile p = l.filter fun t => !p t := by
  induction l with
  | nil => rfl
  | cons a l ih =>
    rw [List.pairwise_cons] at h
    cases ha : p a
    · have hl : ∀ b ∈ l, p b = false := fun b hb => by
        cases hb' : p b
        · rfl
        · simpa [ha] using h.1 b hb hb'
      have hkeep : l.filter (fun t => !p t) = l := List.filter_eq_self.2 fun b hb => by simp [hl b hb]
      simp [ha, hkeep]
    · simp [ha, ih h.2]

theorem takeWhile_eq_filter {p : Segment → Bool} (h : l.Pairwise fun a b => p b → p a) :
    l.takeWhile p = l.filter p := by
  induction l with
  | nil => rfl
  | cons a l ih =>
    rw [List.pairwise_cons] at h
    cases ha : p a
    · have hl : ∀ b ∈ l, p b = false := fun b hb => by
        cases hb' : p b
        · rfl
        · simpa [ha] using h.1 b hb hb'
      simpa [ha] using hl
    · simp [ha, ih h.2]

/-- Stopping at the first item the scan leaves at loses nothing kept, when nothing kept comes
at or after such an item. -/
theorem filter_takeWhile {p r : Segment → Bool}
    (hl : l.Pairwise fun a b => p a = false → r b = false)
    (hp : ∀ a ∈ l, p a = false → r a = false) : (l.takeWhile p).filter r = l.filter r := by
  induction l with
  | nil => rfl
  | cons a l ih =>
    rw [List.pairwise_cons] at hl
    cases ha : p a
    · have hrest : l.filter r = [] := List.filter_eq_nil_iff.2 fun b hb => by
        simp [hl.1 b hb ha]
      simp [ha, hp a List.mem_cons_self ha, hrest]
    · simp [ha, List.filter_cons, ih hl.2 fun b hb => hp b (by simp [hb])]

theorem visit_eq (q : SegmentQuery) (l : List Segment) {acc : List Segment}
    (hacc : acc.length ≤ q.pageLimit.toNat) :
    visit q acc l = acc ++ ((l.takeWhile fun s => !q.leaves s).filter q.selects).take
      (q.pageLimit.toNat + 1 - acc.length) := by
  have hpos := q.pageLimit_pos
  induction l generalizing acc with
  | nil => simp [visit]
  | cons s rest ih =>
    by_cases hl : q.leaves s
    · simp [visit, hl]
    by_cases hsel : q.selects s
    · by_cases hroom : ((acc ++ [s]).length : Int) ≤ q.pageLimit
      · have hacc' : (acc ++ [s]).length ≤ q.pageLimit.toNat := by omega
        have hn : q.pageLimit.toNat + 1 - acc.length = (q.pageLimit.toNat + 1 - (acc ++ [s]).length) + 1 := by
          simp only [List.length_append, List.length_singleton]
          omega
        simp only [visit, hl, hsel, Bool.false_eq_true, if_false, if_true, hroom, ih hacc',
          List.takeWhile_cons, Bool.not_false, List.filter_cons, hn, List.take_succ_cons,
          List.append_assoc, List.singleton_append]
      · have hfull : acc.length = q.pageLimit.toNat := by
          simp only [List.length_append, List.length_singleton] at hroom
          omega
        simp [visit, hl, hsel, hfull]
    · have hroom : (acc.length : Int) ≤ q.pageLimit := by omega
      simp only [Bool.not_eq_true] at hsel hl
      simp [visit, hl, hsel, hroom, ih hacc]

/-! The scan of a query's tree. -/

variable {e : Int} {a b : Segment}

theorem passed_of_leaves (hf : a.flow = q.flow) (ho : q.object = "" ∨ a.object = q.object)
    (h : q.leaves a = true) :
    if q.reverse then ∃ m ∈ q.endMin, a.stop < m else ∃ m ∈ q.endMax, m < a.stop := by
  have ho' : (!q.object.isEmpty && a.object != q.object) = false := by
    rcases ho with ho | ho <;> simp [ho]
  simp only [SegmentQuery.leaves, hf, bne_self_eq_false, Bool.false_or, ho'] at h
  cases hr : q.reverse <;> simp only [hr] at h <;> simpa [Option.any_eq_true] using h

theorem key_before_of_leaves (hr : q.reverse = false) (hobj : q.object = "" ∨ a.object = q.object)
    (ha : a.key.before ⟨q.flow, e⟩ = false) (hl : q.leaves a = true) (hs : q.selects b = true) :
    b.key.before a.key = true := by
  have hb := SegmentQuery.selects_iff.1 hs
  have hpast : ¬ a.flow < q.flow := fun h => by
    rw [SegmentKey.before_iff.2 (.inl h)] at ha
    cases ha
  rw [SegmentKey.before_iff]
  by_cases hf : a.flow = q.flow
  · -- in the query's flow the scan stops at `a` for passing the end bound
    have hp := passed_of_leaves hf hobj hl
    rw [hr, if_neg Bool.false_ne_true] at hp
    obtain ⟨m, hm, hlt⟩ := hp
    have hle : b.stop ≤ m := hb.2.2.2.1 m hm
    exact .inr ⟨hb.1.trans hf.symm, show b.stop < a.stop by omega⟩
  · show b.flow < a.flow ∨ _
    rw [hb.1]
    exact .inl (lt_of_le_of_ne (not_lt.1 hpast) (Ne.symm hf))

theorem key_before_of_leaves_reverse (hr : q.reverse = true)
    (hobj : q.object = "" ∨ a.object = q.object)
    (ha : (⟨q.flow, e⟩ : SegmentKey).before a.key = false) (hl : q.leaves a = true)
    (hs : q.selects b = true) : a.key.before b.key = true := by
  have hb := SegmentQuery.selects_iff.1 hs
  have hpast : ¬ q.flow < a.flow := fun h => by
    rw [SegmentKey.before_iff.2 (.inl h)] at ha
    cases ha
  rw [SegmentKey.before_iff]
  by_cases hf : a.flow = q.flow
  · have hp := passed_of_leaves hf hobj hl
    rw [hr, if_pos rfl] at hp
    obtain ⟨m, hm, hlt⟩ := hp
    have hle : m ≤ b.stop := hb.2.2.1 m hm
    exact .inr ⟨hf.trans hb.1.symm, show a.stop < b.stop by omega⟩
  · show a.flow < b.flow ∨ _
    rw [hb.1]
    exact .inl (lt_of_le_of_ne (not_lt.1 hpast) hf)

theorem key_before_pivot {f : String} (hf : a.flow = f) :
    a.key.before ⟨f, e⟩ = decide (a.stop < e) := by
  simp [SegmentKey.before, Segment.key, hf]

theorem pivot_before_key {f : String} (hf : a.flow = f) :
    (⟨f, e⟩ : SegmentKey).before a.key = decide (e < a.stop) := by
  simp [SegmentKey.before, Segment.key, hf]

theorem objectKey_before_iff {o : String} (ho : a.object = o) (k : SegmentKey) :
    a.objectKey.before ⟨o, k⟩ = a.key.before k := by
  simp [ObjectKey.before, Segment.objectKey, ho]

theorem before_objectKey_iff {o : String} (ho : a.object = o) (k : SegmentKey) :
    (⟨o, k⟩ : ObjectKey).before a.objectKey = k.before a.key := by
  simp [ObjectKey.before, Segment.objectKey, ho]

theorem pastStart_iff_key (hp : st.StartsAt q (some e)) (ht : t ∈ st.segments)
    (hs : q.selects t = true) :
    (if q.reverse then !(⟨q.flow, e⟩ : SegmentKey).before t.key else !t.key.before ⟨q.flow, e⟩) =
      q.pastStart t := by
  have hiff := hp t ht hs
  have hf := SegmentQuery.flow_of_selects hs
  cases hr : q.reverse <;> simp only [hr, if_true, Bool.false_eq_true, if_false] at hiff ⊢
  · rw [key_before_pivot hf, Bool.eq_iff_iff, ← hiff]
    simp
  · rw [pivot_before_key hf, Bool.eq_iff_iff, ← hiff]
    simp

/-- A scan in an order where whatever it stops at comes after all that the query selects loses
nothing the query selects. -/
theorem filter_walk {R : Segment → Segment → Prop} (hl : l.Pairwise R)
    (htrans : ∀ {a b c}, R a b → R b c → R a c) (hirr : ∀ a, ¬ R a a)
    (hpast : ∀ a ∈ l, ∀ b, q.leaves a = true → q.selects b = true → R b a) :
    (l.takeWhile fun s => !q.leaves s).filter q.selects = l.filter q.selects := by
  refine filter_takeWhile (hl.imp_of_mem fun {a b} ha _ hab hla => ?_) fun a _ hla => ?_
  · cases hs : q.selects b
    · rfl
    · exact absurd (htrans hab (hpast a ha b (by simpa using hla) hs)) (hirr a)
  · exact SegmentQuery.selects_eq_false_of_leaves (by simpa using hla)

theorem filter_byObject (ho : q.object ≠ "") {p : Segment → Bool}
    (hp : ∀ t, p t = true → q.selects t = true) :
    st.byObject.filter p = st.segments.filter p := by
  have hsel : ∀ {l : List Segment} {t}, t ∈ l.filter p → t.flow = q.flow ∧ t.object = q.object :=
    fun ht =>
      have h := SegmentQuery.selects_iff.1 (hp _ (List.mem_filter.1 ht).2)
      ⟨h.1, h.2.1.resolve_left ho⟩
  have hobj : (st.byObject.filter p).Pairwise fun a b => a.stop < b.stop :=
    (st.mirrored.2.filter p).imp_of_mem fun {a b} ha hb hab => by
      obtain ⟨haf, hao⟩ := hsel ha
      obtain ⟨hbf, hbo⟩ := hsel hb
      rw [ObjectKey.before_iff] at hab
      simp only [Segment.objectKey_object, Segment.objectKey_key, hao, hbo, String.lt_irrefl,
        true_and, false_or] at hab
      exact SegmentKey.stop_lt_of_before hab (haf.trans hbf.symm)
  have hprim : (st.segments.filter p).Pairwise fun a b => a.stop < b.stop :=
    (st.ordered.filter p).imp_of_mem fun {a b} ha hb hab =>
      SegmentKey.stop_lt_of_before hab ((hsel ha).1.trans (hsel hb).1.symm)
  exact (st.mirrored.1.filter p).eq_of_pairwise (fun a b _ _ hab hba => by omega) hobj hprim

theorem filter_scan_ascend (hp : st.StartsAt q (some e)) (ho : q.object = "")
    (hr : q.reverse = false) :
    ((st.scanFrom q e).takeWhile fun s => !q.leaves s).filter q.selects = st.queryMatches q := by
  have hscan : st.scanFrom q e = st.segments.filter fun t => !t.key.before ⟨q.flow, e⟩ := by
    simp only [scanFrom, show q.object.isEmpty = true by simp [ho], hr, if_true,
      Bool.false_eq_true, if_false, ascend]
    exact dropWhile_eq_filter (st.ordered.imp fun hab hb => SegmentKey.before_trans hab hb)
  have hpast : ∀ a ∈ st.segments.filter (fun t => !t.key.before ⟨q.flow, e⟩), ∀ b,
      q.leaves a = true → q.selects b = true → b.key.before a.key = true := fun a ha b hla hs =>
    key_before_of_leaves hr (.inl ho) (by simpa using (List.mem_filter.1 ha).2) hla hs
  rw [hscan, filter_walk (st.ordered.filter _) (fun hab hbc => SegmentKey.before_trans hab hbc)
    (by simp) hpast, List.filter_filter, queryMatches, hr, if_neg Bool.false_ne_true]
  refine List.filter_congr fun t ht => ?_
  cases hs : q.selects t
  · simp
  · have hp := pastStart_iff_key hp ht hs
    rw [hr, if_neg Bool.false_ne_true] at hp
    simp [hp]

theorem filter_scan_descend (hp : st.StartsAt q (some e)) (ho : q.object = "")
    (hr : q.reverse = true) :
    ((st.scanFrom q e).takeWhile fun s => !q.leaves s).filter q.selects = st.queryMatches q := by
  have hscan : st.scanFrom q e =
      (st.segments.filter fun t => !(⟨q.flow, e⟩ : SegmentKey).before t.key).reverse := by
    simp only [scanFrom, show q.object.isEmpty = true by simp [ho], hr, if_true, descend]
    refine congrArg List.reverse (takeWhile_eq_filter (st.ordered.imp fun {a b} hab hb => ?_))
    cases hpa : SegmentKey.before ⟨q.flow, e⟩ a.key
    · rfl
    · simp [SegmentKey.before_trans hpa hab] at hb
  have hpast : ∀ a ∈ (st.segments.filter fun t => !(⟨q.flow, e⟩ : SegmentKey).before t.key).reverse,
      ∀ b, q.leaves a = true → q.selects b = true → a.key.before b.key = true :=
    fun a ha b hla hs => key_before_of_leaves_reverse hr (.inl ho)
      (by simpa using (List.mem_filter.1 (List.mem_reverse.1 ha)).2) hla hs
  rw [hscan, filter_walk (List.pairwise_reverse.2 (st.ordered.filter _))
    (fun hab hbc => SegmentKey.before_trans hbc hab) (by simp) hpast, List.filter_reverse,
    List.filter_filter, queryMatches, hr, if_pos rfl, List.filter_reverse]
  refine congrArg List.reverse (List.filter_congr fun t ht => ?_)
  cases hs : q.selects t
  · simp
  · have hp := pastStart_iff_key hp ht hs
    rw [hr, if_pos rfl] at hp
    simp [hp]

theorem filter_scan_object_ascend (hp : st.StartsAt q (some e)) (ho : q.object ≠ "")
    (hr : q.reverse = false) :
    ((st.scanFrom q e).takeWhile fun s => !q.leaves s).filter q.selects = st.queryMatches q := by
  have hscan : st.scanFrom q e =
      st.byObject.filter fun t => !t.objectKey.before ⟨q.object, ⟨q.flow, e⟩⟩ := by
    simp only [scanFrom, show q.object.isEmpty = false by simpa using ho, hr, Bool.false_eq_true,
      if_false, ascend]
    exact dropWhile_eq_filter (st.mirrored.2.imp fun hab hb => ObjectKey.before_trans hab hb)
  have hpast : ∀ a ∈ st.byObject.filter (fun t => !t.objectKey.before ⟨q.object, ⟨q.flow, e⟩⟩),
      ∀ b, q.leaves a = true → q.selects b = true → b.objectKey.before a.objectKey = true := by
    intro a ha b hla hs
    have ha' : ¬ a.objectKey.before ⟨q.object, ⟨q.flow, e⟩⟩ = true := by
      simpa using (List.mem_filter.1 ha).2
    have hbo : b.object = q.object := (SegmentQuery.selects_iff.1 hs).2.1.resolve_left ho
    rw [ObjectKey.before_iff] at ha' ⊢
    simp only [Segment.objectKey_object, Segment.objectKey_key] at ha' ⊢
    by_cases hao : a.object = q.object
    · -- in the query's object the scan stops at `a` as the primary scan would
      simp only [hao, String.lt_irrefl, true_and, false_or, Bool.not_eq_true] at ha'
      exact .inr ⟨hbo.trans hao.symm, key_before_of_leaves hr (.inr hao) ha' hla hs⟩
    · have hlt : ¬ a.object < q.object := fun hlt => by simp [hlt] at ha'
      exact .inl (hbo ▸ lt_of_le_of_ne (not_lt.1 hlt) (Ne.symm hao))
  rw [hscan, filter_walk (st.mirrored.2.filter _)
    (fun hab hbc => ObjectKey.before_trans hab hbc) (by simp) hpast, List.filter_filter,
    queryMatches, hr, if_neg Bool.false_ne_true]
  rw [← filter_byObject ho fun t ht => by
    simp only [Bool.and_eq_true] at ht
    exact ht.1]
  refine List.filter_congr fun t ht => ?_
  cases hs : q.selects t
  · simp
  · have hto : t.object = q.object := (SegmentQuery.selects_iff.1 hs).2.1.resolve_left ho
    have hp := pastStart_iff_key hp (st.mirrored.1.subset ht) hs
    rw [hr, if_neg Bool.false_ne_true] at hp
    simp only [Bool.true_and, objectKey_before_iff hto, hp]

theorem filter_scan_object_descend (hp : st.StartsAt q (some e))
    (ho : q.object ≠ "") (hr : q.reverse = true) :
    ((st.scanFrom q e).takeWhile fun s => !q.leaves s).filter q.selects = st.queryMatches q := by
  have hscan : st.scanFrom q e =
      (st.byObject.filter fun t => !(⟨q.object, ⟨q.flow, e⟩⟩ : ObjectKey).before t.objectKey).reverse := by
    simp only [scanFrom, show q.object.isEmpty = false by simpa using ho, hr, Bool.false_eq_true,
      if_false, if_true, descend]
    refine congrArg List.reverse (takeWhile_eq_filter (st.mirrored.2.imp fun {a b} hab hb => ?_))
    cases hpa : ObjectKey.before ⟨q.object, ⟨q.flow, e⟩⟩ a.objectKey
    · rfl
    · simp [ObjectKey.before_trans hpa hab] at hb
  have hpast : ∀ a ∈ (st.byObject.filter
        fun t => !(⟨q.object, ⟨q.flow, e⟩⟩ : ObjectKey).before t.objectKey).reverse,
      ∀ b, q.leaves a = true → q.selects b = true → a.objectKey.before b.objectKey = true := by
    intro a ha b hla hs
    have ha' : ¬ (⟨q.object, ⟨q.flow, e⟩⟩ : ObjectKey).before a.objectKey = true := by
      simpa using (List.mem_filter.1 (List.mem_reverse.1 ha)).2
    have hbo : b.object = q.object := (SegmentQuery.selects_iff.1 hs).2.1.resolve_left ho
    rw [ObjectKey.before_iff] at ha' ⊢
    simp only [Segment.objectKey_object, Segment.objectKey_key] at ha' ⊢
    by_cases hao : a.object = q.object
    · simp only [hao, String.lt_irrefl, true_and, false_or, Bool.not_eq_true] at ha'
      exact .inr ⟨hao.trans hbo.symm, key_before_of_leaves_reverse hr (.inr hao) ha' hla hs⟩
    · have hlt : ¬ q.object < a.object := fun hlt => by simp [hlt] at ha'
      exact .inl (hbo ▸ lt_of_le_of_ne (not_lt.1 hlt) hao)
  rw [hscan, filter_walk (List.pairwise_reverse.2 (st.mirrored.2.filter _))
    (fun hab hbc => ObjectKey.before_trans hbc hab) (by simp) hpast, List.filter_reverse,
    List.filter_filter, queryMatches, hr, if_pos rfl, List.filter_reverse]
  rw [← filter_byObject ho fun t ht => by
    simp only [Bool.and_eq_true] at ht
    exact ht.1]
  refine congrArg List.reverse (List.filter_congr fun t ht => ?_)
  cases hs : q.selects t
  · simp
  · have hto : t.object = q.object := (SegmentQuery.selects_iff.1 hs).2.1.resolve_left ho
    have hp := pastStart_iff_key hp (st.mirrored.1.subset ht) hs
    rw [hr, if_pos rfl] at hp
    simp only [Bool.true_and, before_objectKey_iff hto, hp]

theorem filter_scan (hp : st.StartsAt q (some e)) :
    ((st.scanFrom q e).takeWhile fun s => !q.leaves s).filter q.selects = st.queryMatches q := by
  by_cases ho : q.object = "" <;> cases hr : q.reverse
  · exact filter_scan_ascend hp ho hr
  · exact filter_scan_descend hp ho hr
  · exact filter_scan_object_ascend hp ho hr
  · exact filter_scan_object_descend hp ho hr

/-- A query whose scan starts where it should answers the first page of its matches, and the
key of the page's last segment when more are left. -/
theorem query_eq_of_startsAt (h : st.StartsAt q q.startEnd) :
    st.query q =
      if q.pageLimit < (st.queryMatches q).length then
        { segments := (st.queryMatches q).take q.pageLimit.toNat,
          lastKey := ((st.queryMatches q).take q.pageLimit.toNat).getLast?.map Segment.key }
      else { segments := st.queryMatches q } := by
  have hpos := q.pageLimit_pos
  unfold query
  cases he : q.startEnd with
  | none =>
    rw [he] at h
    have hnil : st.queryMatches q = [] := List.filter_eq_nil_iff.2 fun t ht => by
      have ht' : t ∈ st.segments := by split at ht <;> simp_all
      cases hs : q.selects t
      · simp
      · simp [h t ht' hs]
    simp [hnil, not_lt.2 hpos.le]
  | some e =>
    rw [he] at h
    have hvisit : visit q [] (st.scanFrom q e) = (st.queryMatches q).take (q.pageLimit.toNat + 1) := by
      have := visit_eq q (st.scanFrom q e)
        (show ([] : List Segment).length ≤ q.pageLimit.toNat from Nat.zero_le _)
      rwa [List.nil_append, List.length_nil, Nat.sub_zero, filter_scan h] at this
    simp only [hvisit]
    have hn : (q.pageLimit.toNat : Int) = q.pageLimit := Int.toNat_of_nonneg hpos.le
    by_cases hlt : q.pageLimit < (st.queryMatches q).length
    · have hlen : q.pageLimit < ((st.queryMatches q).take (q.pageLimit.toNat + 1)).length := by
        simp only [List.length_take]
        omega
      rw [if_pos hlen, if_pos hlt, List.take_take, Nat.min_eq_left (Nat.le_succ _)]
    · have htake : (st.queryMatches q).take (q.pageLimit.toNat + 1) = st.queryMatches q :=
        List.take_of_length_le (by omega)
      simp only [htake, if_neg hlt]

/-- Where every end fits in 64 bits, a query answers the first page of its matches, and the key
of the page's last segment when more are left. -/
theorem query_eq (h : st.Ends64) (q : SegmentQuery) :
    st.query q =
      if q.pageLimit < (st.queryMatches q).length then
        { segments := (st.queryMatches q).take q.pageLimit.toNat,
          lastKey := ((st.queryMatches q).take q.pageLimit.toNat).getLast?.map Segment.key }
      else { segments := st.queryMatches q } :=
  query_eq_of_startsAt (startsAt_startEnd h q)

/-- A store of fewer segments than the largest 64-bit integer answers a query without a
positive limit with all its matches. -/
theorem query_eq_of_nonpos (h : st.Ends64) (hn : st.segments.length ≤ int64Max)
    (hq : q.limit ≤ 0) : st.query q = { segments := st.queryMatches q } := by
  have hle := length_queryMatches_le st q
  rw [query_eq h, SegmentQuery.pageLimit_of_nonpos hq, if_neg (by omega)]

theorem query_eq_of_pos (h : st.Ends64) (hq : 0 < q.limit) :
    st.query q =
      if q.limit < (st.queryMatches q).length then
        { segments := (st.queryMatches q).take q.limit.toNat,
          lastKey := ((st.queryMatches q).take q.limit.toNat).getLast?.map Segment.key }
      else { segments := st.queryMatches q } := by
  rw [query_eq h, SegmentQuery.pageLimit_of_pos hq]

theorem sublist_query (h : st.Ends64) (q : SegmentQuery) :
    (st.query q).segments.Sublist (st.queryMatches q) := by
  rw [query_eq h]
  split
  · exact List.take_sublist _ _
  · exact List.Sublist.refl _

theorem filter_scan_sublist (q : SegmentQuery) (e : Int) :
    ((st.scanFrom q e).filter q.selects).Sublist
      ((if q.reverse then st.segments.reverse else st.segments).filter q.selects) := by
  by_cases ho : q.object = ""
  · have hE : q.object.isEmpty = true := by simp [ho]
    cases hr : q.reverse <;>
      simp only [scanFrom, hE, hr, if_true, Bool.false_eq_true, if_false, ascend, descend]
    · exact (List.dropWhile_suffix _).sublist.filter _
    · exact (List.reverse_sublist.2 (List.takeWhile_sublist _)).filter _
  · have hE : q.object.isEmpty = false := by simpa using ho
    cases hr : q.reverse <;>
      simp only [scanFrom, hE, hr, if_true, Bool.false_eq_true, if_false, ascend, descend]
    · rw [← filter_byObject ho fun _ h => h]
      exact (List.dropWhile_suffix _).sublist.filter _
    · rw [List.filter_reverse, List.filter_reverse, ← filter_byObject ho fun _ h => h]
      exact List.reverse_sublist.2 ((List.takeWhile_sublist _).filter _)

theorem sublist_walk (q : SegmentQuery) :
    (st.query q).segments.Sublist
      ((if q.reverse then st.segments.reverse else st.segments).filter q.selects) := by
  unfold query
  cases q.startEnd with
  | none => exact List.nil_sublist _
  | some e =>
    have hv : (visit q [] (st.scanFrom q e)).Sublist ((st.scanFrom q e).filter q.selects) := by
      rw [visit_eq q _ (show ([] : List Segment).length ≤ q.pageLimit.toNat from Nat.zero_le _)]
      exact (List.take_sublist _ _).trans ((List.takeWhile_sublist _).filter _)
    dsimp only
    split
    · exact (List.take_sublist _ _).trans (hv.trans (filter_scan_sublist q e))
    · exact hv.trans (filter_scan_sublist q e)

theorem selects_of_mem_query (hx : x ∈ (st.query q).segments) : q.selects x = true :=
  (List.mem_filter.1 ((sublist_walk q).subset hx)).2

theorem mem_of_mem_query (hx : x ∈ (st.query q).segments) : x ∈ st.segments := by
  have := (List.mem_filter.1 ((sublist_walk q).subset hx)).1
  split at this <;> simp_all

theorem query_eq_nil (h : ∀ s ∈ st.segments, q.selects s = false) : (st.query q).segments = [] :=
  List.eq_nil_iff_forall_not_mem.2 fun x hx => by
    simpa [h x (mem_of_mem_query hx)] using selects_of_mem_query hx

theorem head?_query (h : st.StartsAt q q.startEnd) (hq : 0 < q.limit) :
    (st.query q).segments.head? = (st.queryMatches q).head? := by
  rw [query_eq_of_startsAt h, SegmentQuery.pageLimit_of_pos hq]
  split
  · have hn : q.limit.toNat ≠ 0 := by omega
    rw [List.head?_take, if_neg hn]
  · rfl

/-! Counting an object's segments by a walk of the object index. -/

theorem not_lt_empty (x : String) : ¬ x < "" := fun h => by
  simpa using String.lt_iff_toList_lt.1 h

theorem exists_of_countReferences_ne_zero {o : String} (h : st.countReferences o ≠ 0) :
    ∃ seg ∈ st.segments, seg.object = o := by
  obtain ⟨x, hx⟩ := List.exists_mem_of_length_pos (Nat.pos_of_ne_zero h)
  have hxo : x.object = o := by simpa using List.mem_takeWhile_imp hx
  have hxb : x ∈ st.byObject := (List.dropWhile_suffix _).subset ((List.takeWhile_sublist _).subset hx)
  exact ⟨x, st.mirrored.1.subset hxb, hxo⟩

theorem countReferences_eq (h : st.Ends64) (o : String) :
    st.countReferences o = (st.segments.filter (·.object == o)).length := by
  have hdrop : ascend Segment.objectKey ObjectKey.before ⟨o, ⟨"", int64Min⟩⟩ st.byObject =
      st.byObject.filter fun t => !t.objectKey.before ⟨o, ⟨"", int64Min⟩⟩ :=
    dropWhile_eq_filter (st.mirrored.2.imp fun hab hb => ObjectKey.before_trans hab hb)
  -- past the pivot the object's segments come first, so the walk stops after the last of them
  have htake : (st.byObject.filter fun t => !t.objectKey.before ⟨o, ⟨"", int64Min⟩⟩).takeWhile
      (·.object == o) = (st.byObject.filter fun t => !t.objectKey.before ⟨o, ⟨"", int64Min⟩⟩).filter
        (·.object == o) := by
    refine takeWhile_eq_filter ((st.mirrored.2.filter _).imp_of_mem fun {a b} ha _ hab hb => ?_)
    have ha' : ¬ a.object < o := fun hlt => by
      have hbef := (List.mem_filter.1 ha).2
      rw [(ObjectKey.before_iff (a := a.objectKey) (b := ⟨o, ⟨"", int64Min⟩⟩)).2 (.inl hlt)] at hbef
      cases hbef
    simp only [beq_iff_eq] at hb ⊢
    rcases ObjectKey.before_iff.1 hab with hlt | ⟨heq, -⟩
    · exact absurd (hb ▸ hlt) ha'
    · exact heq.trans hb
  have hpivot : ∀ t ∈ st.byObject, (t.object == o) = true →
      t.objectKey.before ⟨o, ⟨"", int64Min⟩⟩ = false := fun t ht hto => by
    have h64 := h t (st.mirrored.1.subset ht)
    unfold IsInt64 at h64
    simp only [beq_iff_eq] at hto
    rw [Bool.eq_false_iff]
    intro hbef
    rcases ObjectKey.before_iff.1 hbef with hlt | ⟨-, hk⟩
    · rw [Segment.objectKey_object, hto] at hlt
      exact String.lt_irrefl _ hlt
    · rw [Segment.objectKey_key] at hk
      rcases SegmentKey.before_iff.1 hk with hlt | ⟨-, hlt⟩
      · exact not_lt_empty _ hlt
      · exact absurd hlt (show ¬ t.stop < int64Min by omega)
  unfold countReferences
  rw [hdrop, htake, List.filter_filter, (st.mirrored.1.filter _).length_eq.symm]
  congr 1
  refine List.filter_congr fun t ht => ?_
  cases hto : t.object == o
  · simp
  · simp [hpivot t ht hto]

theorem countReferences_eq_zero (h : st.Ends64) {o : String} :
    st.countReferences o = 0 ↔ ∀ seg ∈ st.segments, seg.object ≠ o := by
  rw [countReferences_eq h, List.length_eq_zero_iff, List.filter_eq_nil_iff]
  simp

end Store

end MediaTimeline
