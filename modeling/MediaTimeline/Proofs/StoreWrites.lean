import Mathlib
import MediaTimeline.Proofs.IndexInvariant
import MediaTimeline.Proofs.SqlQuery

/-! Stores built by segment writes: each key holds its last write, the object index holds the
same segments, and the range scan answers what a plain filter, sort and take would. -/

namespace MediaTimeline

/-- A write to a store's segments. -/
inductive SegmentWrite where
  | put (s : Segment)
  | delete (flow : String) (stop : Int)
  | append (flow : String) (stop : Int) (ids : List String)

namespace SegmentWrite

def apply : SegmentWrite → Store → Store
  | put s, st => st.putSegment s
  | delete flow stop, st =>
    match st.deleteSegment flow stop with
    | .ok (_, st') => st'
    | .error _ => st
  | append flow stop ids, st =>
    match st.appendStorageIds flow stop ids with
    | .ok st' => st'
    | .error _ => st

def replay (ws : List SegmentWrite) : Store := ws.foldl (fun st w => w.apply st) default

def key : SegmentWrite → SegmentKey
  | put s => s.key
  | delete flow stop => ⟨flow, stop⟩
  | append flow stop _ => ⟨flow, stop⟩

def update : SegmentWrite → Option Segment → Option Segment
  | put s, _ => some s
  | delete _ _, _ => none
  | append _ _ ids, held => held.map fun s => { s with storageIds := Store.addNew s.storageIds ids }

def step (v : SegmentKey → Option Segment) (w : SegmentWrite) : SegmentKey → Option Segment :=
  Function.update v w.key (w.update (v w.key))

def latest (ws : List SegmentWrite) : SegmentKey → Option Segment := ws.foldl step fun _ => none

/-- Whether what a write stores has a 64-bit end, as the store's keys do. -/
def Fits : SegmentWrite → Prop
  | put s => IsInt64 s.stop
  | _ => True

instance : DecidablePred Fits
  | put s => inferInstanceAs (Decidable (IsInt64 s.stop))
  | delete _ _ => isTrue trivial
  | append _ _ _ => isTrue trivial

end SegmentWrite

namespace Store

def holding (st : Store) (k : SegmentKey) : Option Segment := st.segments.find? (·.key == k)

theorem holding_of_getSegment_error {st : Store} {flow : String} {stop : Int} {e : Fault}
    (h : st.getSegment flow stop = .error e) : st.holding ⟨flow, stop⟩ = none := by
  unfold getSegment at h
  unfold holding
  split at h
  · cases h
  · assumption

theorem find?_placeSegment_self (s : Segment) (l : List Segment) :
    (placeSegment s l).find? (·.key == s.key) = some s := by
  induction l with
  | nil => simp [placeSegment, place]
  | cons t ts ih =>
    simp only [placeSegment, place] at ih ⊢
    split_ifs with hst
    · simp
    · simp
    · have hts : (t.key == s.key) = false := by
        rw [beq_eq_false_iff_ne]
        exact fun h => hst (by simp [h])
      simp only [List.find?_cons, hts, ih]

theorem find?_placeSegment_of_ne (s : Segment) (l : List Segment) {k : SegmentKey}
    (hk : k ≠ s.key) : (placeSegment s l).find? (·.key == k) = l.find? (·.key == k) := by
  have hsk : (s.key == k) = false := beq_false_of_ne (Ne.symm hk)
  induction l with
  | nil => simp [placeSegment, place, hsk]
  | cons t ts ih =>
    simp only [placeSegment, place] at ih ⊢
    split_ifs with hst
    · have htk : (t.key == k) = false := by rw [← beq_iff_eq.1 hst]; exact hsk
      simp only [List.find?_cons, hsk, htk]
    · simp only [List.find?_cons, hsk]
    · simp only [List.find?_cons, ih]

theorem find?_map_of_key {l : List Segment} {g : Segment → Segment} (hg : ∀ s, (g s).key = s.key)
    (k : SegmentKey) : (l.map g).find? (·.key == k) = (l.find? (·.key == k)).map g := by
  rw [List.find?_map]
  congr 2
  funext s
  simp [hg]

end Store

namespace SegmentWrite

theorem step_of_none {v : SegmentKey → Option Segment} {w : SegmentWrite} (h : v w.key = none)
    (hw : w.update none = none) : step v w = v := by
  rw [step, h, hw, ← h, Function.update_eq_self]

theorem holding_apply (w : SegmentWrite) (st : Store) : (w.apply st).holding = step st.holding w := by
  unfold step
  cases w with
  | put s =>
    funext k
    simp only [key, update]
    by_cases hk : k = s.key
    · subst hk
      simp [apply, Store.holding, Store.putSegment, Store.find?_placeSegment_self]
    · rw [Function.update_of_ne hk]
      exact Store.find?_placeSegment_of_ne s st.segments hk
  | delete flow stop =>
    cases hd : st.deleteSegment flow stop with
    | ok p =>
      obtain ⟨r, st'⟩ := p
      obtain ⟨-, rfl⟩ := Store.deleteSegment_eq_ok.1 hd
      funext k
      simp only [apply, hd, Store.holding, Store.segments_dropKey, List.find?_filter]
      by_cases hk : k = ⟨flow, stop⟩
      · subst hk
        simp [key, update, List.find?_eq_none]
      · rw [Function.update_of_ne (by simpa [key] using hk)]
        congr 1
        funext s
        by_cases hs : s.key = k <;> simp [hs, hk]
    | error e =>
      simp only [apply, hd]
      exact (step_of_none (Store.holding_of_getSegment_error
        (Store.deleteSegment_eq_error.1 hd)) rfl).symm
  | append flow stop ids =>
    cases ha : st.appendStorageIds flow stop ids with
    | ok st' =>
      have hseg : st'.segments = st.segments.map (Store.addIds ⟨flow, stop⟩ ids) :=
        Store.appendStorageIds_eq_ok ha
      funext k
      simp only [apply, ha, Store.holding, hseg, Store.find?_map_of_key (Store.key_addIds _ _), key,
        update]
      by_cases hk : k = ⟨flow, stop⟩
      · subst hk
        rw [Function.update_self]
        cases hf : st.segments.find? (·.key == ⟨flow, stop⟩) with
        | none => rfl
        | some x =>
          have hx := List.find?_some hf
          simp [Store.addIds, hx]
      · rw [Function.update_of_ne hk]
        unfold Store.holding
        cases hf : st.segments.find? (·.key == k) with
        | none => rfl
        | some x =>
          have hx : x.key = k := by simpa using List.find?_some hf
          have hxk : (x.key == ⟨flow, stop⟩) = false := by simpa [hx] using hk
          simp [Store.addIds, hxk]
    | error e =>
      have hg : st.getSegment flow stop = .error e := by
        unfold Store.appendStorageIds at ha
        cases hg : st.getSegment flow stop <;> simp_all [Except.map]
      simp only [apply, ha]
      exact (step_of_none (Store.holding_of_getSegment_error hg) rfl).symm

theorem stop_addIds (k : SegmentKey) (ids : List String) (s : Segment) :
    (Store.addIds k ids s).stop = s.stop := by
  unfold Store.addIds
  split <;> rfl

theorem ends64_apply {w : SegmentWrite} (hw : w.Fits) {st : Store} (h : st.Ends64) :
    (w.apply st).Ends64 := by
  cases w with
  | put s =>
    intro x hx
    rcases Store.mem_of_mem_placeSegment hx with rfl | hx
    · exact hw
    · exact h x hx
  | delete flow stop =>
    cases hd : st.deleteSegment flow stop with
    | ok p =>
      obtain ⟨r, st'⟩ := p
      obtain ⟨-, rfl⟩ := Store.deleteSegment_eq_ok.1 hd
      simp only [apply, hd]
      exact fun x hx => h x (List.mem_filter.1 hx).1
    | error e =>
      simp only [apply, hd]
      exact h
  | append flow stop ids =>
    cases ha : st.appendStorageIds flow stop ids with
    | ok st' =>
      have hseg : st'.segments = st.segments.map (Store.addIds ⟨flow, stop⟩ ids) :=
        Store.appendStorageIds_eq_ok ha
      simp only [apply, ha]
      intro x hx
      rw [hseg, List.mem_map] at hx
      obtain ⟨y, hy, rfl⟩ := hx
      rw [stop_addIds]
      exact h y hy
    | error e =>
      simp only [apply, ha]
      exact h

theorem holding_foldl (ws : List SegmentWrite) (st : Store) :
    (ws.foldl (fun st w => w.apply st) st).holding = ws.foldl step st.holding := by
  induction ws generalizing st with
  | nil => rfl
  | cons w ws ih => rw [List.foldl_cons, List.foldl_cons, ih, holding_apply]

theorem ends64_foldl {ws : List SegmentWrite} (hws : ∀ w ∈ ws, w.Fits) {st : Store}
    (h : st.Ends64) : (ws.foldl (fun st w => w.apply st) st).Ends64 := by
  induction ws generalizing st with
  | nil => exact h
  | cons w ws ih =>
    exact ih (fun w' hw' => hws w' (List.mem_cons_of_mem w hw'))
      (ends64_apply (hws w List.mem_cons_self) h)

theorem holding_replay (ws : List SegmentWrite) : (replay ws).holding = latest ws :=
  holding_foldl ws default

theorem ends64_replay {ws : List SegmentWrite} (hws : ∀ w ∈ ws, w.Fits) : (replay ws).Ends64 :=
  ends64_foldl hws fun _ h => nomatch h

theorem mem_replay (ws : List SegmentWrite) (s : Segment) :
    s ∈ (replay ws).segments ↔ latest ws s.key = some s := by
  rw [← holding_replay]
  constructor
  · exact Store.find?_key_of_ordered (replay ws).ordered
  · exact List.mem_of_find?_eq_some

theorem foldl_step_of_not_mem {ws : List SegmentWrite} {k : SegmentKey} (hk : k ∉ ws.map key)
    (v : SegmentKey → Option Segment) : ws.foldl step v k = v k := by
  induction ws generalizing v with
  | nil => rfl
  | cons w ws ih =>
    simp only [List.map_cons, List.mem_cons, not_or] at hk
    rw [List.foldl_cons, ih hk.2, step, Function.update_of_ne hk.1]

theorem key_of_latest {ws : List SegmentWrite} {k : SegmentKey} {s : Segment}
    (h : latest ws k = some s) : s.key = k := by
  rw [← holding_replay] at h
  simpa using List.find?_some h

theorem mem_keys_of_latest {ws : List SegmentWrite} {k : SegmentKey} {s : Segment}
    (h : latest ws k = some s) : k ∈ ws.map key := by
  by_contra hk
  rw [latest, foldl_step_of_not_mem hk] at h
  cases h

theorem length_replay_le (ws : List SegmentWrite) : (replay ws).segments.length ≤ ws.length := by
  have hnodup : ((replay ws).segments.map Segment.key).Nodup :=
    List.pairwise_map.2 ((replay ws).ordered.imp fun hab he => by
      rw [he, SegmentKey.before_irrefl] at hab
      cases hab)
  have hsub : (replay ws).segments.map Segment.key ⊆ ws.map key := fun k hk => by
    obtain ⟨s, hs, rfl⟩ := List.mem_map.1 hk
    exact mem_keys_of_latest ((mem_replay ws s).1 hs)
  simpa using (List.subperm_of_subset hnodup hsub).length_le

theorem countReferences_replay {ws : List SegmentWrite} (hws : ∀ w ∈ ws, w.Fits) (o : String) :
    (replay ws).countReferences o =
      ((ws.map key).dedup.filter fun k => (latest ws k).any (·.object == o)).length := by
  have hnodup : (((replay ws).segments.filter (·.object == o)).map Segment.key).Nodup :=
    List.pairwise_map.2 (((replay ws).ordered.filter _).imp fun hab he => by
      rw [he, SegmentKey.before_irrefl] at hab
      cases hab)
  rw [Store.countReferences_eq (ends64_replay hws), ← List.length_map (f := Segment.key)]
  refine List.Perm.length_eq ((List.perm_ext_iff_of_nodup hnodup
    ((List.nodup_dedup _).filter _)).2 fun k => ?_)
  simp only [List.mem_map, List.mem_filter, mem_replay, List.mem_dedup]
  constructor
  · rintro ⟨s, ⟨hs, hso⟩, rfl⟩
    exact ⟨List.mem_map.1 (mem_keys_of_latest hs), by simp [hs, hso]⟩
  · rintro ⟨-, hk⟩
    cases hl : latest ws k with
    | none => simp [hl] at hk
    | some s =>
      have hsk : s.key = k := key_of_latest hl
      subst hsk
      exact ⟨s, ⟨hl, by simpa [hl] using hk⟩, rfl⟩

end SegmentWrite

namespace SegmentQuery

theorem selects_object (q : SegmentQuery) {o : String} (ho : o ≠ "") (s : Segment) :
    { q with object := o }.selects s = ({ q with object := "" }.selects s && s.object == o) := by
  have hne : o.isEmpty = false := by simpa using ho
  have hempty : ("" : String).isEmpty = true := rfl
  cases hso : s.object == o <;> simp [selects, hne, hempty, hso]

end SegmentQuery

namespace Store

/-- Without a limit, a query for one object answers the query for no object, filtered. -/
theorem query_object {st : Store} (h64 : st.Ends64) (hn : st.segments.length ≤ int64Max)
    (q : SegmentQuery) {o : String} (ho : o ≠ "") (hl : q.limit ≤ 0) :
    (st.query { q with object := o }).segments =
      (st.query { q with object := "" }).segments.filter (·.object == o) := by
  rw [query_eq_of_nonpos (q := { q with object := o }) h64 hn hl,
    query_eq_of_nonpos (q := { q with object := "" }) h64 hn hl]
  simp only [queryMatches, List.filter_filter]
  refine List.filter_congr fun s _ => ?_
  rw [SegmentQuery.selects_object q ho]
  simp only [SegmentQuery.pastStart]
  cases s.object == o <;> simp

end Store

namespace SegmentWrite

variable {ws : List SegmentWrite}

/-- The two indexes of a store built by writes of 64-bit ends, fewer than the largest 64-bit
integer, hold the same segments: the object index holds exactly the last write to each key that
left a segment, with its storage ids, whatever object an overwrite changed it to. The walk of the
object index counts the keys whose last write left a segment of an object, and a query for the
object without a limit answers the query for no object, filtered by object, in the same order. -/
theorem object_view_follows_writes (ws : List SegmentWrite) (o : String)
    (hws : ∀ w ∈ ws, w.Fits) (hn : ws.length ≤ int64Max) :
    let st := replay ws
    st.byObject.Perm st.segments ∧ (∀ s, s ∈ st.byObject ↔ latest ws s.key = some s) ∧
    st.countReferences o =
      ((ws.map key).dedup.filter fun k => (latest ws k).any (·.object == o)).length ∧
    (o ≠ "" → ∀ q : SegmentQuery, q.limit ≤ 0 →
      (st.query { q with object := o }).segments =
        (st.query { q with object := "" }).segments.filter (·.object == o)) := by
  have hlen : ((replay ws).segments.length : Int) ≤ int64Max := by
    have := length_replay_le ws
    omega
  intro st
  refine ⟨st.mirrored.1, fun s => ?_, countReferences_replay hws o,
    fun ho q hl => Store.query_object (ends64_replay hws) hlen q ho hl⟩
  rw [← mem_replay]
  exact st.mirrored.1.mem_iff

/-- Overwriting the segment of object `a` at a key by one of object `b` moves the key's reference
from `a` to `b`, and storage ids added to `a`'s other segment reach its object's view. -/
theorem object_view_after_overwrite :
    let seg (o : String) (k : Int) : Segment := { flow := "f", object := o, range := ⟨none, none⟩,
                                                   stop := k }
    let ws := [put (seg "a" 1), put (seg "a" 2), put (seg "b" 1), append "f" 2 ["x"]]
    (replay ws).countReferences "a" = 1 ∧ (replay ws).countReferences "b" = 1 ∧
      ((replay ws).query { flow := "f", object := "a" }).segments =
        [{ seg "a" 2 with storageIds := ["x"] }] := by
  intro seg ws
  have ha := object_view_follows_writes ws "a" (by decide) (by decide)
  have hb := object_view_follows_writes ws "b" (by decide) (by decide)
  refine ⟨ha.2.2.1.trans (by decide), hb.2.2.1.trans (by decide), ?_⟩
  rw [ha.2.2.2 (by decide) { flow := "f" } le_rfl]
  decide

end SegmentWrite

namespace SegmentQuery

/-- What a query reads before its limit, by filter and sort: the segments it selects past its
start key, sorted by end, ascending or, when the query is reversed, descending. -/
def scan (q : SegmentQuery) (segs : List Segment) : List Segment :=
  (segs.filter fun s => q.selects s && q.pastStart s).mergeSort
    fun a b => if q.reverse then decide (b.stop ≤ a.stop) else decide (a.stop ≤ b.stop)

end SegmentQuery

namespace SegmentWrite

/-- The range scan of a store built by writes of 64-bit ends, fewer than the largest 64-bit
integer, answers the first `limit` of the segments its query selects past its start key, sorted
by end in its direction (all of them for a limit of zero or less), and the key of the last one
answered exactly when the limit left some out. -/
theorem query_takes_sorted_matches (ws : List SegmentWrite) (q : SegmentQuery)
    (hws : ∀ w ∈ ws, w.Fits) (hn : ws.length ≤ int64Max) :
    let st := replay ws
    let found := q.scan st.segments
    (st.query q).segments = found.take (if 0 < q.limit then q.limit.toNat else found.length) ∧
      (st.query q).lastKey = if 0 < q.limit ∧ q.limit < found.length then
        (st.query q).segments.getLast?.map Segment.key else none := by
  have hlen : ((replay ws).segments.length : Int) ≤ int64Max := by
    have := length_replay_le ws
    omega
  intro st found
  have h64 := ends64_replay hws
  have hm : st.queryMatches q = found := (Sql.mergeSort_matches (List.Perm.refl _)).symm
  by_cases hl : 0 < q.limit
  · rw [Store.query_eq_of_pos h64 hl, hm]
    by_cases hmore : q.limit < found.length
    · simp only [hmore, hl, if_true, and_self]
    · have htake : found.take q.limit.toNat = found := List.take_of_length_le (by omega)
      simp [hmore, hl, htake]
  · rw [Store.query_eq_of_nonpos h64 hlen (by omega), hm]
    simp [hl]

/-- Of three segments written, one deleted again, a reversed scan of one answers the latest
of the flow, the first of the sorted matches. -/
theorem query_takes_sorted_matches_reversed :
    let seg (o : String) (k : Int) : Segment := { flow := "f", object := o, range := ⟨none, none⟩,
                                                   stop := k }
    let ws := [put (seg "a" 1), put (seg "b" 3), put (seg "a" 2), delete "f" 3]
    let q : SegmentQuery := { flow := "f", reverse := true, limit := 1 }
    ((replay ws).query q).segments = (q.scan (replay ws).segments).take 1 ∧
      ((replay ws).query q).segments = [seg "a" 2] := by
  intro seg ws q
  obtain ⟨hseg, -⟩ := query_takes_sorted_matches ws q (by decide) (by decide)
  refine ⟨hseg.trans ?_, by decide⟩
  simp [q]

end SegmentWrite

end MediaTimeline
