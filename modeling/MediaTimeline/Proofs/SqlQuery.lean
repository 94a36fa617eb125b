import Mathlib
import MediaTimeline.Proofs.Effects
import MediaTimeline.Sql.Store

/-! The SQL store's range read against the memory store's. -/

namespace MediaTimeline.Sql

/-- A column of the segments table that a condition reads. -/
inductive SegmentColumn where
  | flowId
  | objectId
  | timerangeEnd
  | timerangeStart
deriving DecidableEq

namespace SegmentColumn

def name : SegmentColumn → String
  | flowId => "flow_id"
  | objectId => "object_id"
  | timerangeEnd => "timerange_end"
  | timerangeStart => "timerange_start"

def cell (s : Segment) : SegmentColumn → SqlValue
  | flowId => .text s.flow
  | objectId => .text s.object
  | timerangeEnd => .int s.stop
  | timerangeStart => .int s.start

end SegmentColumn

/-- A comparison of a cell with an argument. -/
inductive Comparison where
  | eq
  | lt
  | le
  | gt
  | ge
deriving DecidableEq

namespace Comparison

def symbol : Comparison → String
  | eq => "="
  | lt => "<"
  | le => "<="
  | gt => ">"
  | ge => ">="

def accepts : Comparison → Ordering → Bool
  | eq, o => o == .eq
  | lt, o => o == .lt
  | le, o => o != .gt
  | gt, o => o == .gt
  | ge, o => o != .lt

def holds (c : Comparison) : SqlValue → SqlValue → Bool
  | .int a, .int b => c.accepts (compare a b)
  | .text a, .text b => c.accepts (compare a b)
  | _, _ => false

@[simp] theorem holds_text_eq (a b : String) : eq.holds (.text a) (.text b) = (a == b) := by
  simp [holds, accepts]

@[simp] theorem holds_int_lt (a b : Int) : lt.holds (.int a) (.int b) = decide (a < b) := by
  rw [holds, accepts, Bool.eq_iff_iff, beq_iff_eq, decide_eq_true_iff]
  exact compare_lt_iff_lt

@[simp] theorem holds_int_le (a b : Int) : le.holds (.int a) (.int b) = decide (a ≤ b) := by
  rw [holds, accepts, Bool.eq_iff_iff, bne_iff_ne, decide_eq_true_iff]
  exact compare_le_iff_le

@[simp] theorem holds_int_gt (a b : Int) : gt.holds (.int a) (.int b) = decide (b < a) := by
  rw [holds, accepts, Bool.eq_iff_iff, beq_iff_eq, decide_eq_true_iff]
  exact compare_gt_iff_gt

@[simp] theorem holds_int_ge (a b : Int) : ge.holds (.int a) (.int b) = decide (b ≤ a) := by
  rw [holds, accepts, Bool.eq_iff_iff, bne_iff_ne, decide_eq_true_iff]
  exact compare_ge_iff_ge

end Comparison

/-- A condition of a WHERE clause: a column compared with the argument bound to its placeholder. -/
structure SegmentCond where
  column : SegmentColumn
  cmp : Comparison
  arg : SqlValue

namespace SegmentCond

def template (c : SegmentCond) : String := c.column.name ++ " " ++ c.cmp.symbol ++ " ?"

def holdsOn (c : SegmentCond) (s : Segment) : Bool := c.cmp.holds (c.column.cell s) c.arg

end SegmentCond

/-- A selection of segment rows: the conditions they meet, the direction of the order by end,
and the row limit, if any. -/
structure SegmentSelect where
  conds : List SegmentCond
  descending : Bool
  limit : Option Int

namespace SegmentSelect

/-- The statement's text in the dialect and its arguments: the placeholder of the condition at
position `i` is the dialect's `i + 1`-th, bound to the argument at position `i`. -/
def render (d : Dialect) (sel : SegmentSelect) : String × List SqlValue :=
  let wheres := sel.conds.zipIdx.map fun (c, i) => c.template.replace "?" (d.placeholder (i + 1))
  ("SELECT " ++ segmentColumns ++ " FROM segments WHERE " ++ " AND ".intercalate wheres ++
    " ORDER BY timerange_end " ++ (if sel.descending then "DESC" else "ASC") ++
    (match sel.limit with
     | some n => " LIMIT " ++ toString n
     | none => ""), sel.conds.map (·.arg))

def eval (sel : SegmentSelect) (table : List Segment) : Option (List Segment) :=
  let rows := table.filter fun s => sel.conds.all (·.holdsOn s)
  let sorted := rows.mergeSort fun a b => if sel.descending then b.stop ≤ a.stop else a.stop ≤ b.stop
  match sel.limit with
  | none => some sorted
  | some n => if 0 ≤ n then some (sorted.take n.toNat) else none

end SegmentSelect

def boundConds (q : SegmentQuery) : List SegmentCond :=
  [⟨.flowId, .eq, .text q.flow⟩] ++
    (if q.object.isEmpty then [] else [⟨.objectId, .eq, .text q.object⟩]) ++
    (q.endMin.toList.map fun n => ⟨.timerangeEnd, .ge, .int n⟩) ++
    (q.endMax.toList.map fun n => ⟨.timerangeEnd, .le, .int n⟩) ++
    (q.startMax.toList.map fun n => ⟨.timerangeStart, .le, .int n⟩)

def startConds (q : SegmentQuery) : Option (List SegmentCond) :=
  match q.after with
  | none => some []
  | some k =>
    if q.reverse then
      if k.stop = int64Min then none else some [⟨.timerangeEnd, .lt, .int k.stop⟩]
    else if k.stop = int64Max then none else some [⟨.timerangeEnd, .gt, .int k.stop⟩]

def selectOf (q : SegmentQuery) : Option SegmentSelect :=
  (startConds q).map fun past =>
    { conds := boundConds q ++ past
      descending := q.reverse
      limit := if 0 < q.limit then some (Int.bmod (q.limit + 1) (2 ^ 64)) else none }

theorem SegmentSelect.render_eq (d : Dialect) (sel : SegmentSelect) :
    let ps := sel.conds.map fun c => (c.template, c.arg)
    sel.render d =
      ("SELECT " ++ segmentColumns ++ " FROM segments WHERE " ++
        " AND ".intercalate (ps.zipIdx.map fun ((c, _), i) => c.replace "?" (d.placeholder (i + 1))) ++
        " ORDER BY timerange_end " ++ (if sel.descending then "DESC" else "ASC") ++
        (match sel.limit with
         | some n => " LIMIT " ++ toString n
         | none => ""), ps.map (·.2)) := by
  simp [render, List.zipIdx_map, List.map_map, Function.comp_def]

theorem boundConds_text (q : SegmentQuery) :
    (boundConds q).map (fun c => (c.template, c.arg)) =
      [("flow_id = ?", SqlValue.text q.flow)] ++
      (if q.object.isEmpty then [] else [("object_id = ?", SqlValue.text q.object)]) ++
      (q.endMin.toList.map fun n => ("timerange_end >= ?", SqlValue.int n)) ++
      (q.endMax.toList.map fun n => ("timerange_end <= ?", SqlValue.int n)) ++
      (q.startMax.toList.map fun n => ("timerange_start <= ?", SqlValue.int n)) := by
  simp only [boundConds, List.map_append, List.map_map, List.map_cons, List.map_nil]
  split <;> simp [Function.comp_def, SegmentCond.template, SegmentColumn.name, Comparison.symbol]

theorem segmentQuery_eq_render (d : Dialect) (q : SegmentQuery) :
    segmentQuery d q = (selectOf q).map (·.render d) := by
  obtain ⟨flow, object, endMin, endMax, startMax, reverse, limit, after⟩ := q
  unfold segmentQuery selectOf startConds
  cases after with
  | none =>
    simp only [Option.map_some, SegmentSelect.render_eq, List.append_nil, boundConds_text]
    split_ifs <;> rfl
  | some k =>
    by_cases hk : k.stop = if reverse then int64Min else int64Max
    · -- a key at the last end refuses the query on both sides
      cases reverse <;> simp_all
    · -- any other key adds its condition last; the bound conditions are read off their texts
      cases reverse <;> simp only [if_true, Bool.false_eq_true, if_false] at hk <;>
        simp only [hk, if_true, Bool.false_eq_true, if_false, Option.map_some,
          SegmentSelect.render_eq, List.map_append, boundConds_text, Option.bind_eq_bind,
          Option.bind_some] <;>
        simp only [List.map_cons, List.map_nil, SegmentCond.template, SegmentColumn.name,
          Comparison.symbol] <;> split_ifs <;> rfl

variable {q : SegmentQuery} {sel : SegmentSelect} {s : Segment}

theorem all_toList {α : Type} (o : Option α) (p : α → Bool) : o.toList.all p = o.all p := by
  cases o <;> simp

theorem boundConds_holdsOn (q : SegmentQuery) (s : Segment) :
    (boundConds q).all (·.holdsOn s) = q.selects s := by
  simp only [boundConds, SegmentQuery.selects, List.all_append, List.all_cons, List.all_nil,
    List.all_map, Function.comp_def, SegmentCond.holdsOn, SegmentColumn.cell,
    Comparison.holds_text_eq, Comparison.holds_int_ge, Comparison.holds_int_le, Bool.and_true]
  by_cases ho : q.object.isEmpty <;> simp [ho, all_toList]

theorem startConds_holdsOn {past : List SegmentCond} (h : startConds q = some past) (s : Segment) :
    past.all (·.holdsOn s) = q.pastStart s := by
  unfold startConds at h
  unfold SegmentQuery.pastStart
  rcases hk : q.after with _ | k
  · rw [hk] at h
    cases h
    rfl
  · rw [hk] at h
    cases hr : q.reverse <;> simp only [hr, Bool.false_eq_true, if_false, if_true] at h <;>
      split at h <;> cases h <;> simp [SegmentCond.holdsOn, SegmentColumn.cell]

theorem selectOf_holdsOn (h : selectOf q = some sel) (s : Segment) :
    sel.conds.all (·.holdsOn s) = (q.selects s && q.pastStart s) := by
  obtain ⟨past, hpast, rfl⟩ := Option.map_eq_some_iff.1 h
  simp only [List.all_append, boundConds_holdsOn, startConds_holdsOn hpast]

theorem mergeSort_matches {st : Store} {table : List Segment} (htable : table.Perm st.segments) :
    (table.filter fun s => q.selects s && q.pastStart s).mergeSort
      (fun a b => if q.reverse then decide (b.stop ≤ a.stop) else decide (a.stop ≤ b.stop)) =
      st.queryMatches q := by
  have hwalk : (if q.reverse then st.segments.reverse else st.segments).Perm st.segments := by
    split
    · exact List.reverse_perm _
    · exact List.Perm.refl _
  have hperm : ((table.filter fun s => q.selects s && q.pastStart s).mergeSort
      (fun a b => if q.reverse then decide (b.stop ≤ a.stop) else decide (a.stop ≤ b.stop))).Perm
      (st.queryMatches q) :=
    (List.mergeSort_perm _ _).trans ((htable.filter _).trans (hwalk.filter _).symm)
  refine List.Perm.eq_of_pairwise ?_ (List.pairwise_mergeSort ?_ ?_ _) ?_ hperm
  · -- two matches with the same end are in the query's flow, so they share a key
    intro a b ha hb hab hba
    have ha' := List.mem_filter.1 ((List.mergeSort_perm _ _).subset ha)
    have hb' := Store.mem_queryMatches.1 hb
    have hstop : a.stop = b.stop := by
      cases hr : q.reverse <;> simp only [hr, Bool.false_eq_true, if_false, if_true,
        decide_eq_true_eq] at hab hba <;> omega
    have hkey : b.key = a.key := by
      simp only [Segment.key, SegmentQuery.flow_of_selects hb'.2.1, hstop,
        SegmentQuery.flow_of_selects (Bool.and_eq_true_iff.1 ha'.2).1]
    exact (Store.eq_of_key_eq_of_ordered st.ordered (htable.subset ha'.1) hb'.1 hkey).symm
  · intro a b c hab hbc
    split at hab <;> simp_all <;> omega
  · intro a b
    split <;> simp <;> omega
  · exact (Store.pairwise_queryMatches _ _).imp fun h => by
      unfold SegmentQuery.ahead at h
      split at h <;> simp_all <;> omega

/-- Below the largest limit, a query's selection picks from any table holding a key-ordered
store's segments the store's matches, one more than the page's limit when it has one. -/
theorem eval_selectOf {st : Store} {table : List Segment} (htable : table.Perm st.segments)
    (hlim : q.limit < int64Max) (h : selectOf q = some sel) :
    sel.eval table = some (if 0 < q.limit then (st.queryMatches q).take (q.limit + 1).toNat
      else st.queryMatches q) := by
  have hrows : (table.filter fun s => sel.conds.all (·.holdsOn s)) =
      table.filter fun s => q.selects s && q.pastStart s :=
    List.filter_congr fun s _ => selectOf_holdsOn h s
  obtain ⟨past, -, rfl⟩ := Option.map_eq_some_iff.1 h
  simp only [SegmentSelect.eval] at hrows ⊢
  rw [hrows, mergeSort_matches htable]
  split_ifs with hl
  · -- one more than a limit below the largest is no wrapped sum
    have hb : Int.bmod (q.limit + 1) (2 ^ 64) = q.limit + 1 := by
      unfold int64Max at hlim
      exact Int.bmod_eq_of_le (by norm_num; omega) (by norm_num; omega)
    simp only [hb, show 0 ≤ q.limit + 1 by omega, if_true]
  · rfl

theorem selectOf_eq_none_iff : selectOf q = none ↔
    ∃ k, q.after = some k ∧ k.stop = if q.reverse then int64Min else int64Max := by
  unfold selectOf startConds
  rcases q.after with _ | k
  · simp
  · cases q.reverse <;> by_cases hk : k.stop = int64Max <;> by_cases hk' : k.stop = int64Min <;>
      simp [hk, hk']

theorem query_of_selectOf_none {st : Store} (h64 : st.Ends64) (h : selectOf q = none) :
    st.query q = {} := by
  obtain ⟨k, hk, hstop⟩ := selectOf_eq_none_iff.1 h
  have hnone : st.queryMatches q = [] := by
    refine List.eq_nil_iff_forall_not_mem.2 fun s hs => ?_
    obtain ⟨hmem, -, hpast⟩ := Store.mem_queryMatches.1 hs
    have hb := h64 s hmem
    unfold IsInt64 at hb
    simp only [SegmentQuery.pastStart, hk, Option.all_some] at hpast
    cases hr : q.reverse <;> simp only [hr, Bool.false_eq_true, if_false, if_true,
      decide_eq_true_eq] at hstop hpast <;> omega
  have hpos := q.pageLimit_pos
  rw [Store.query_eq h64, hnone, if_neg (by simp only [List.length_nil, Nat.cast_zero]; omega)]

def pageOf (q : SegmentQuery) (segs : List Segment) : SegmentPage :=
  if 0 < q.limit ∧ q.limit < segs.length then
    let page := segs.take q.limit.toNat
    { segments := page, lastKey := page.getLast?.map Segment.key }
  else { segments := segs }

theorem pageOf_probe {st : Store} (h64 : st.Ends64) (hn : st.segments.length ≤ int64Max)
    (q : SegmentQuery) :
    pageOf q (if 0 < q.limit then (st.queryMatches q).take (q.limit + 1).toNat
      else st.queryMatches q) = st.query q := by
  by_cases hl : 0 < q.limit
  · rw [Store.query_eq_of_pos h64 hl]
    -- one match more than the limit was read exactly when more matches are left
    have hlen : q.limit < ((st.queryMatches q).take (q.limit + 1).toNat).length ↔
        q.limit < (st.queryMatches q).length := by
      simp only [List.length_take]
      omega
    have htake : ((st.queryMatches q).take (q.limit + 1).toNat).take q.limit.toNat =
        (st.queryMatches q).take q.limit.toNat := by
      rw [List.take_take]
      congr 1
      omega
    simp only [hl, if_true, pageOf, true_and, hlen, htake]
    split_ifs with hmore
    · rfl
    · rw [List.take_of_length_le (by omega)]
  · rw [Store.query_eq_of_nonpos h64 hn (by omega)]
    simp [pageOf, hl]

variable {α : Type}

theorem run_bind {β : Type} (m : StoreM α) (f : α → StoreM β) (c : Connection) :
    (m >>= f).run.run c = match m.run.run c with
      | (.ok a, c') => (f a).run.run c'
      | (.error e, c') => (.error e, c') := by
  simp only [ExceptT.run_bind, StateT.run_bind]
  rcases m.run.run c with ⟨_ | a, c'⟩ <;> rfl

theorem run_wrapping {m : StoreM α} {c c' : Connection} {a : α} (step : String)
    (h : m.run.run c = (.ok a, c')) : (wrapping step m).run.run c = (.ok a, c') := by
  simp only [wrapping, ExceptT.run_tryCatch, StateT.run_bind, h]
  rfl

theorem run_onServer {m : ConnM α} {c c' : Connection} {a : α}
    (h : m.run.run c = (.ok a, c')) : (onServer m).run.run c = (.ok a, c') := by
  simp only [onServer, ExceptT.run_mk, StateT.run_bind, h]
  rfl

theorem run_liftResult {c : Connection} {a : α} : (liftResult (.ok a)).run.run c = (.ok a, c) := rfl

theorem run_query (sql : String) (args : List SqlValue) {c : Connection} {r : Response}
    {rest : List Response} (hscript : c.script = r :: rest) (hfail : r.failure = none) :
    (query sql args).run.run c = (.ok ⟨r.rows, r.rowProblem⟩,
      { c with script := rest, log := c.log ++ [.query (collapseBlanks sql) args] }) := by
  obtain ⟨script, log, fb, fc, fr, fp, now⟩ := c
  obtain ⟨failure, affected, affectedProblem, rows, rowProblem⟩ := r
  dsimp only at hscript hfail
  subst hscript hfail
  rfl

theorem run_querySegments (d : Dialect) (q : SegmentQuery) {sql : String} {args : List SqlValue}
    {c : Connection} {r : Response} {rest : List Response} {segs : List Segment}
    (hsql : segmentQuery d q = some (sql, args)) (hscript : c.script = r :: rest)
    (hfail : r.failure = none) (hproblem : r.rowProblem = none)
    (hrows : segmentsOfRows r.rows = .ok segs) :
    (querySegments d q).run.run c =
      (.ok (pageOf q segs),
        { c with script := rest, log := c.log ++ [.query (collapseBlanks sql) args] }) := by
  have hread := run_wrapping "query segments" (run_onServer (run_query sql args hscript hfail))
  unfold querySegments
  rw [hsql]
  dsimp only
  rw [run_bind, hread]
  dsimp only
  rw [run_bind, hrows, run_wrapping "scan segment" run_liftResult]
  dsimp only
  rw [hproblem]
  unfold pageOf
  split_ifs <;> rfl

theorem run_querySegments_none (d : Dialect) (q : SegmentQuery) (c : Connection)
    (hsql : segmentQuery d q = none) : (querySegments d q).run.run c = (.ok {}, c) := by
  unfold querySegments
  rw [hsql]
  rfl

/-- The SQL store's range read agrees with the memory store's. Take a table holding the segments
of a key-ordered store whose ends are 64-bit integers, and a limit below the largest. A query is
refused before any statement exactly when its exclusive start key is the last end in its
direction, and then both stores answer an empty page. Otherwise its statement is the rendering of
its selection; the selection picks from the table the store's matches in the query's direction,
one more than the limit when there is one; and reading those rows makes the memory store's
page. -/
theorem sql_segment_query_agrees (d : Dialect) (q : SegmentQuery) (st : Store)
    (table : List Segment) (h64 : st.Ends64) (hn : st.segments.length ≤ int64Max)
    (htable : table.Perm st.segments) (hlim : q.limit < int64Max) :
    (selectOf q = none ↔
      ∃ k, q.after = some k ∧ k.stop = if q.reverse then int64Min else int64Max) ∧
    match selectOf q with
    | none => segmentQuery d q = none ∧ st.query q = {} ∧
        ∀ c, (querySegments d q).run.run c = (.ok {}, c)
    | some sel =>
      let rows := if 0 < q.limit then (st.queryMatches q).take (q.limit + 1).toNat
        else st.queryMatches q
      segmentQuery d q = some (sel.render d) ∧ sel.eval table = some rows ∧
        ∀ (c : Connection) (r : Response) (rest : List Response), c.script = r :: rest →
          r.failure = none → r.rowProblem = none → segmentsOfRows r.rows = .ok rows →
          ((querySegments d q).run.run c).1 = .ok (st.query q) := by
  refine ⟨selectOf_eq_none_iff, ?_⟩
  cases h : selectOf q with
  | none =>
    have hsql : segmentQuery d q = none := by rw [segmentQuery_eq_render, h]; rfl
    exact ⟨hsql, query_of_selectOf_none h64 h, fun c => run_querySegments_none d q c hsql⟩
  | some sel =>
    have hsql : segmentQuery d q = some (sel.render d) := by rw [segmentQuery_eq_render, h]; rfl
    refine ⟨hsql, eval_selectOf htable hlim h, fun c r rest hscript hfail hproblem hrows => ?_⟩
    rw [run_querySegments d q hsql hscript hfail hproblem hrows, pageOf_probe h64 hn]

theorem sql_segment_query_agrees_reordered :
    let seg₁ : Segment := { flow := "f", object := "o1", range := .eternity, stop := 999 }
    let seg₂ : Segment := { flow := "f", object := "o2", range := .eternity, start := 1000, stop := 1999 }
    let st : Store := { segments := [seg₁, seg₂], byObject := [seg₁, seg₂] }
    st.Ends64 ∧ st.segments.length ≤ int64Max ∧ [seg₂, seg₁].Perm st.segments ∧
      ∃ sel, selectOf { flow := "f", limit := 1 } = some sel ∧
        sel.eval [seg₂, seg₁] = some [seg₁, seg₂] ∧
        (st.query { flow := "f", limit := 1 }).lastKey = some seg₁.key := by
  intro seg₁ seg₂ st
  have h64 : st.Ends64 := by
    simp [st, seg₁, seg₂, Store.Ends64, IsInt64, int64Min, int64Max]
  have hn : st.segments.length ≤ int64Max := by
    simp [st, int64Max]
  have htable : [seg₂, seg₁].Perm st.segments := List.Perm.swap _ _ _
  obtain ⟨-, h⟩ := sql_segment_query_agrees .postgres { flow := "f", limit := 1 } st [seg₂, seg₁]
    h64 hn htable (by decide)
  obtain ⟨-, heval, -⟩ := h
  exact ⟨h64, hn, htable, _, rfl, heval.trans (by decide), by decide⟩

/-- At the largest limit the probe for one row more wraps: the statement asks for a negative
count of rows, which the database refuses. -/
theorem largest_limit_probe_wraps :
    ∃ sel, selectOf { flow := "f", limit := int64Max } = some sel ∧
      segmentQuery .postgres { flow := "f", limit := int64Max } = some (sel.render .postgres) ∧
      sel.limit = some (-9223372036854775808) ∧ sel.eval [] = none :=
  ⟨_, rfl, by rw [segmentQuery_eq_render]; rfl, rfl, rfl⟩

end MediaTimeline.Sql
