import Mathlib
import MediaTimeline.Proofs.Effects
import MediaTimeline.Proofs.PageToken
import MediaTimeline.Proofs.IndexInvariant

set_option mvcgen.warning false

/-! Listing a flow page by page. -/

namespace MediaTimeline

namespace Store

theorem query_congr {st st' : Store} (h : st.segments = st'.segments) (q : SegmentQuery) :
    st.query q = st'.query q := by
  have hb := byObject_eq_of_segments h
  unfold query scanFrom
  rw [h, hb]

theorem lastKey_query {st : Store} {q : SegmentQuery} {k : SegmentKey}
    (h : (st.query q).lastKey = some k) : ∃ x ∈ (st.query q).segments, x.key = k := by
  unfold query at h ⊢
  cases he : q.startEnd with
  | none => simp [he] at h
  | some e =>
    simp only [he] at h ⊢
    by_cases hm : q.pageLimit < (visit q [] (st.scanFrom q e)).length
    · rw [if_pos hm] at h ⊢
      obtain ⟨x, hx, rfl⟩ := Option.map_eq_some_iff.1 h
      exact ⟨x, List.mem_of_getLast? hx, rfl⟩
    · rw [if_neg hm] at h
      cases h

end Store

namespace SegmentKey

theorem toToken_ne_empty (k : SegmentKey) : k.toToken.isEmpty = false := by
  unfold toToken
  rw [SegmentKey.utf8Bytes_render_toDoc]
  have hne : ∀ rest, Text.encodeBase64Url (0x7B :: rest) ≠ [] := by
    rintro (_ | ⟨b, _ | ⟨c, rest⟩⟩) <;> simp [Text.encodeBase64Url]
  simpa [String.isEmpty_iff, ← String.toList_inj] using hne _

end SegmentKey

namespace ServiceM

open Std.Do

theorem plan_query_spec (flow : String) (p : ListParams) :
    ⦃fun _ => ⌜True⌝⦄ plan flow p
    ⦃post⟨fun qo _ => ⌜qo.1.flow = flow ∧
        qo.1.limit = (if p.limit ≤ 0 then defaultPageLimit else p.limit) ∧
        (p.page = "" → qo.1.after = none)⌝,
      fun _ _ => ⌜True⌝, fun _ _ => ⌜True⌝⟩⦄ := by
  mvcgen [plan, -plan_spec] with simp_all +zetaDelta

theorem runOn_plan_after (flow tok : String) (p : ListParams) (k : SegmentKey) (s : Service)
    (hpage : p.page = "") (htok : SegmentKey.ofToken tok = .ok k) (hne : tok.isEmpty = false)
    (hkf : k.flow = flow) :
    (plan flow { p with page := tok }).runOn s =
      match (plan flow p).runOn s with
      | (.ok (.ok (q, ok)), s') => (.ok (.ok ({ q with after := some k }, ok)), s')
      | r => r := by
  have hpe : p.page.isEmpty = true := by rw [hpage]; rfl
  simp only [plan, runOn_bind, hpe, hne, htok, hkf, bne_self_eq_false, Bool.false_eq_true, if_true,
    if_false, runOn_pure]
  rcases p.range with _ | r
  · rfl
  dsimp only
  generalize (if p.limit ≤ 0 then defaultPageLimit else p.limit) = lim
  by_cases he : r.isEternity
  · simp only [he, if_true]
    rfl
  by_cases hm : r.isEmpty
  · simp only [he, hm, if_true, if_false, Bool.false_eq_true]
    rfl
  simp only [he, hm, if_false, Bool.false_eq_true]
  rcases r.lower with _ | lo
  all_goals rcases r.upper with _ | up
  all_goals dsimp only
  all_goals
    rcases r.startKey with e | a <;> rcases r.stopKey with e' | b <;>
      simp only [runOn_bind, runOn_pure, refuse, runOn_throw]
  all_goals split_ifs <;> simp only [runOn_bind, runOn_pure]
  all_goals rcases (exactEnd flow b).runOn s with ⟨(c | (e | a')), s'⟩ <;> rfl

theorem runOn_query_of_up (q : SegmentQuery) {s : Service} (hq : s.outages.queryAfter = none) :
    (query q).runOn s =
      (.ok (.ok (s.store.query q)),
        { s with outages := { s.outages with queries := s.outages.queries + 1 } }) := by
  rw [runOn_query, hq]
  rfl

def anchorOf (st : Store) (flow : String) (b : Int) : Int :=
  match (st.query { flow := flow, endMin := some b, limit := 1 }).segments.head? with
  | some x => if x.start ≤ b then x.stop else b
  | none => b

theorem runOn_exactEnd_of_answered (flow : String) (b : Int) {s : Service}
    (hq : countCall s.outages.queryAfter s.outages.queries = false) :
    (exactEnd flow b).runOn s =
      (.ok (.ok (anchorOf s.store flow b)),
        { s with outages := { s.outages with queries := s.outages.queries + 1 } }) := by
  simp only [exactEnd, runOn_bind, runOn_query, hq, Bool.false_eq_true, if_false, anchorOf]
  cases (s.store.query { flow := flow, endMin := some b, limit := 1 }).segments.head? <;> rfl

theorem runOn_exactEnd_of_down (flow : String) (b : Int) {s : Service}
    (hq : countCall s.outages.queryAfter s.outages.queries = true) :
    (exactEnd flow b).runOn s = (.ok (.error (.outage "query unavailable")), s) := by
  simp only [exactEnd, runOn_bind, runOn_query, hq, if_true]

theorem runOn_exactEnd (flow : String) (b : Int) {s : Service} (hq : s.outages.queryAfter = none) :
    (exactEnd flow b).runOn s =
      (.ok (.ok (anchorOf s.store flow b)),
        { s with outages := { s.outages with queries := s.outages.queries + 1 } }) :=
  runOn_exactEnd_of_answered flow b (by simp [hq, countCall])

theorem runOn_plan_congr (flow : String) (p : ListParams) {s t : Service}
    (hseg : s.store.segments = t.store.segments) (hs : s.outages.queryAfter = none)
    (ht : t.outages.queryAfter = none) :
    ((plan flow p).runOn s).1 = ((plan flow p).runOn t).1 := by
  simp only [plan]
  repeat' split
  all_goals simp only [runOn_bind, runOn_pure, refuse, runOn_throw, runOn_exactEnd _ _ hs,
    runOn_exactEnd _ _ ht, anchorOf, Store.query_congr hseg]

/-- A page of a listing: the page of the plan's query, and the token of its last key when more
are left; nothing when the plan finds nothing to query. -/
theorem runOn_list (flow : String) (p : ListParams) (hv : p.validate = .ok ()) {q : SegmentQuery}
    {ok : Bool} {s s₁ : Service}
    (hplan : (plan flow { p with limit := clampLimit p.limit }).runOn s = (.ok (.ok (q, ok)), s₁))
    (hq : s₁.outages.queryAfter = none) :
    ∃ l s', (list flow p).runOn s = (.ok (.ok l), s') ∧ s'.store = s₁.store ∧
      s'.outages.queryAfter = none ∧
      l.segments = (if ok then (s₁.store.query q).segments else []) ∧
      l.nextPage =
        (if ok then ((s₁.store.query q).lastKey.map SegmentKey.toToken).getD "" else "") := by
  simp only [list, runOn_bind, hv, hplan]
  cases ok
  · exact ⟨_, _, rfl, rfl, hq, rfl, rfl⟩
  · simp only [Bool.not_true, Bool.false_eq_true, if_false, runOn_bind, runOn_query_of_up _ hq,
      runOn_pure]
    refine ⟨_, _, rfl, rfl, hq, ?_, ?_⟩ <;> simp

def listThrough (flow : String) (p : ListParams) : Nat → ServiceM (List Segment)
  | 0 => pure []
  | fuel + 1 => do
    let l ← list flow p
    if l.nextPage.isEmpty then return l.segments
    return l.segments ++ (← listThrough flow { p with page := l.nextPage } fuel)

section Through

variable (flow : String) (p : ListParams) (q₀ : SegmentQuery) (st : Store)

theorem runOn_listThrough (hflow : flow ≠ "") (hpage : p.page = "") (hlim : 0 ≤ p.limit)
    (hq₀ : q₀.flow = flow) (hkeys : st.Ends64)
    (hplan : ∀ s : Service, s.store.segments = st.segments → s.outages.queryAfter = none →
      ∃ s₁, (plan flow { p with limit := clampLimit p.limit }).runOn s = (.ok (.ok (q₀, true)), s₁))
    (fuel : Nat) (a : Option SegmentKey) (ha : ∀ k ∈ a, k.flow = flow ∧ IsInt64 k.stop)
    {l : List Segment}
    (hl : st.readPages (a.elim q₀ fun k => { q₀ with after := some k }) fuel = some l)
    (s : Service) (hs : s.store.segments = st.segments) (hup : s.outages.queryAfter = none) :
    ∃ s', (listThrough flow (a.elim p fun k => { p with page := k.toToken }) fuel).runOn s =
      (.ok (.ok l), s') := by
  induction fuel generalizing a l s with
  | zero => cases hl
  | succ fuel ih =>
    have htok : ∀ k ∈ a, SegmentKey.ofToken k.toToken = .ok k := fun k hk => by
      rw [SegmentKey.ofToken_toToken k (ha k hk).2, if_neg]
      simpa [String.isEmpty_iff, (ha k hk).1] using hflow
    obtain ⟨s₁, hplan₁⟩ : ∃ s₁, (plan flow { (a.elim p fun k => { p with page := k.toToken }) with
        limit := clampLimit (a.elim p fun k => { p with page := k.toToken }).limit }).runOn s =
          (.ok (.ok (a.elim q₀ fun k => { q₀ with after := some k }, true)), s₁) := by
      obtain ⟨s₁, h⟩ := hplan s hs hup
      cases a with
      | none => exact ⟨s₁, h⟩
      | some k =>
        have hafter := runOn_plan_after flow k.toToken { p with limit := clampLimit p.limit } k s
          hpage (htok k rfl) (SegmentKey.toToken_ne_empty k) (ha k rfl).1
        rw [h] at hafter
        exact ⟨s₁, hafter⟩
    have hbk : s.Bookkept s₁ := by
      have := runOn_of_always (plan_spec s flow
        { (a.elim p fun k => { p with page := k.toToken }) with
          limit := clampLimit (a.elim p fun k => { p with page := k.toToken }).limit }) (s := s)
        (Service.bookkept_refl s)
      rwa [hplan₁] at this
    have hup₁ : s₁.outages.queryAfter = none := (congrArg Outages.queryAfter hbk.2.2.1).trans hup
    have hv : (a.elim p fun k => { p with page := k.toToken }).validate = .ok () := by
      cases a with
      | none => simp [ListParams.validate, hpage, not_lt.2 hlim]
      | some k => simp [ListParams.validate, not_lt.2 hlim, SegmentKey.toToken_ne_empty, htok k rfl]
    obtain ⟨lst, s₂, hlist, hst₂, hup₂, hsegs, hnext⟩ := runOn_list flow _ hv hplan₁ hup₁
    have hq : s₁.store.query (a.elim q₀ fun k => { q₀ with after := some k }) =
        st.query (a.elim q₀ fun k => { q₀ with after := some k }) :=
      Store.query_congr (hbk.1.trans hs) _
    simp only [if_true, hq] at hsegs hnext
    rw [Store.readPages] at hl
    cases hk : (st.query (a.elim q₀ fun k => { q₀ with after := some k })).lastKey with
    | none =>
      rw [hk] at hl hnext
      refine ⟨s₂, ?_⟩
      have hempty : ("" : String).isEmpty = true := rfl
      simp only [listThrough, runOn_bind, hlist, hnext, Option.map_none, Option.getD_none, hempty,
        if_true, runOn_pure]
      rw [hsegs]
      simpa using hl
    | some k' =>
      rw [hk] at hl hnext
      obtain ⟨l', hl', rfl⟩ := Option.map_eq_some_iff.1 hl
      obtain ⟨x, hx, rfl⟩ := Store.lastKey_query hk
      have hxm : x ∈ st.segments := Store.mem_of_mem_query hx
      have hxf : x.flow = flow := by
        have := SegmentQuery.flow_of_selects (Store.selects_of_mem_query hx)
        cases a <;> exact this.trans hq₀
      obtain ⟨s', hrest⟩ := ih (some x.key) (fun k hk => by
          cases hk
          exact ⟨hxf, hkeys x hxm⟩)
        (by cases a <;> exact hl') s₂ (by rw [hst₂]; exact hbk.1.trans hs) hup₂
      refine ⟨s', ?_⟩
      simp only [listThrough, runOn_bind, hlist, hnext, Option.map_some, Option.getD_some,
        SegmentKey.toToken_ne_empty, Bool.false_eq_true, if_false]
      have hnextp :
          { (a.elim p fun k => { p with page := k.toToken }) with page := x.key.toToken } =
          ((some x.key).elim p fun k => { p with page := k.toToken }) := by
        cases a <;> rfl
      rw [hnextp, hrest, hsegs]
      rfl

end Through

theorem runOn_iteratePages (st : Store) (fuel : Nat) (q : SegmentQuery) {l : List Segment}
    (hl : st.readPages q fuel = some l) (s : Service) (hs : s.store.segments = st.segments)
    (hup : s.outages.queryAfter = none) :
    ∃ s', (iteratePages q fuel).runOn s = (.ok (.ok l), s') := by
  induction fuel generalizing q l s with
  | zero => cases hl
  | succ fuel ih =>
    rw [Store.readPages] at hl
    simp only [iteratePages, runOn_bind, runOn_query_of_up _ hup, Store.query_congr hs]
    cases hk : (st.query q).lastKey with
    | none =>
      obtain rfl : (st.query q).segments = l := by simpa [hk] using hl
      exact ⟨_, runOn_pure _ _⟩
    | some k =>
      rw [hk] at hl
      obtain ⟨l', hl', rfl⟩ := Option.map_eq_some_iff.1 hl
      obtain ⟨s', hrest⟩ := ih { q with after := some k } hl'
        { s with outages := { s.outages with queries := s.outages.queries + 1 } } hs hup
      refine ⟨s', ?_⟩
      simp only [runOn_bind, hrest, runOn_pure]

theorem runOn_iterate (q : SegmentQuery) {s : Service} (h64 : s.store.Ends64)
    (hup : s.outages.queryAfter = none) :
    ∃ s', (iterate q).runOn s = (.ok (.ok (s.store.queryMatches q)), s') := by
  have hfuel := Nat.lt_succ_of_le (Store.length_queryMatches_le s.store q)
  have hpages : s.store.readPages (if q.limit ≤ 0 then { q with limit := 1000 } else q)
      (s.store.segments.length + 1) = some (s.store.queryMatches q) := by
    split_ifs with hq
    · exact Store.readPages_eq h64 (show (0 : Int) < 1000 by decide) hfuel
    · exact Store.readPages_eq h64 (by omega) hfuel
  simp only [iterate, runOn_bind, runOn_get]
  exact runOn_iteratePages s.store _ _ hpages s rfl hup

theorem clampLimit_pos (n : Int) : 0 < clampLimit n := by
  unfold clampLimit defaultPageLimit maxPageLimit
  split_ifs <;> omega

/-- Over a store that keeps its invariant, a query read page by page gives back all its matches,
in its direction and each once, and so does iterating it; and a listing of a named flow,
followed through the tokens its pages hand out, gives back the matches of its first plan. -/
theorem listing_pages_are_plan_matches (flow : String) (p : ListParams) (s : Service)
    (h64 : s.store.Ends64) (hup : s.outages.queryAfter = none)
    (hflow : flow ≠ "") (hpage : p.page = "") (hlim : 0 ≤ p.limit) {q : SegmentQuery} {ok : Bool}
    {s₁ : Service}
    (hplan : (plan flow { p with limit := clampLimit p.limit }).runOn s = (.ok (.ok (q, ok)), s₁)) :
    (∀ q' : SegmentQuery, 0 < q'.limit → ∀ fuel, (s.store.queryMatches q').length < fuel →
      s.store.readPages q' fuel = some (s.store.queryMatches q') ∧
        (s.store.queryMatches q').Pairwise fun a b => q'.ahead a.stop b.stop) ∧
    (∀ q' : SegmentQuery, ∃ s', (iterate q').runOn s = (.ok (.ok (s.store.queryMatches q')), s')) ∧
    ∃ s', (listThrough flow p (s.store.segments.length + 1)).runOn s =
      (.ok (.ok (if ok then s.store.queryMatches q else [])), s') := by
  refine ⟨fun q' hq' fuel hfuel => ⟨Store.readPages_eq h64 hq' hfuel,
    Store.pairwise_queryMatches s.store q'⟩, fun q' => runOn_iterate q' h64 hup, ?_⟩
  have hq := runOn_of_triple (plan_query_spec flow { p with limit := clampLimit p.limit })
    (P := fun _ => True) s trivial
  rw [hplan] at hq
  obtain ⟨hqf, hql, -⟩ := hq
  have hbk : s.Bookkept s₁ := by
    have := runOn_of_always (plan_spec s flow { p with limit := clampLimit p.limit }) (s := s)
      (Service.bookkept_refl s)
    rwa [hplan] at this
  have hup₁ : s₁.outages.queryAfter = none := (congrArg Outages.queryAfter hbk.2.2.1).trans hup
  cases ok with
  | false =>
    have hv : p.validate = .ok () := by simp [ListParams.validate, hpage, not_lt.2 hlim]
    obtain ⟨lst, s₂, hlist, -, -, hsegs, hnext⟩ := runOn_list flow p hv hplan hup₁
    simp only [Bool.false_eq_true, if_false] at hsegs hnext
    have hempty : ("" : String).isEmpty = true := rfl
    refine ⟨s₂, ?_⟩
    simp only [listThrough, runOn_bind, hlist, hnext, hempty, if_true, runOn_pure, hsegs,
      Bool.false_eq_true, if_false]
  | true =>
    have hqpos : 0 < q.limit := by
      rw [hql]
      split_ifs
      · decide
      · exact clampLimit_pos _
    have hpages := Store.readPages_eq h64 hqpos
      (Nat.lt_succ_of_le (Store.length_queryMatches_le s.store q))
    have hplans : ∀ t : Service, t.store.segments = s.store.segments →
        t.outages.queryAfter = none → ∃ t₁,
          (plan flow { p with limit := clampLimit p.limit }).runOn t =
            (.ok (.ok (q, true)), t₁) := by
      intro t hts htu
      have hcongr := runOn_plan_congr flow { p with limit := clampLimit p.limit } hts htu hup
      rcases ht : (plan flow { p with limit := clampLimit p.limit }).runOn t with ⟨r, t₁⟩
      rw [ht, hplan] at hcongr
      exact ⟨t₁, by rw [show r = _ from hcongr]⟩
    exact runOn_listThrough flow p q s.store hflow hpage hlim hqf h64 hplans _ none
      (fun k hk => by cases hk) hpages s rfl hup

theorem listing_pages_are_plan_matches_two_pages :
    let seg₁ : Segment := ⟨"f", "o1", ⟨some ⟨⟨0⟩, true⟩, some ⟨⟨1000000000⟩, false⟩⟩, "", "",
      none, none, none, [], 0, 999999999⟩
    let seg₂ : Segment := ⟨"f", "o2", ⟨some ⟨⟨1000000000⟩, true⟩, some ⟨⟨2000000000⟩, false⟩⟩,
      "", "", none, none, none, [], 1000000000, 1999999999⟩
    let st : Store := { segments := [seg₁, seg₂], byObject := [seg₁, seg₂] }
    ∃ s', (listThrough "f" { limit := 1 } 3).runOn { store := st } =
      (.ok (.ok [seg₁, seg₂]), s') := by
  intro seg₁ seg₂ st
  have h64 : st.Ends64 := by
    unfold Store.Ends64 IsInt64
    decide
  have hplan : (plan "f" { ({ limit := 1 } : ListParams) with limit := clampLimit 1 }).runOn
      { store := st } = (.ok (.ok ({ flow := "f", limit := 1 }, true)), { store := st }) :=
    rfl
  obtain ⟨-, -, s', h⟩ := listing_pages_are_plan_matches "f" { limit := 1 } _ h64 rfl (by decide)
    rfl (by decide) hplan
  exact ⟨s', h.trans (by rfl)⟩

/-- A flow without a name lists its first page with a token that the next page refuses. -/
theorem unnamed_flow_token_is_refused :
    let seg₁ : Segment := ⟨"", "o1", ⟨some ⟨⟨0⟩, true⟩, some ⟨⟨1000000000⟩, false⟩⟩, "", "",
      none, none, none, [], 0, 999999999⟩
    let seg₂ : Segment := ⟨"", "o2", ⟨some ⟨⟨1000000000⟩, true⟩, some ⟨⟨2000000000⟩, false⟩⟩,
      "", "", none, none, none, [], 1000000000, 1999999999⟩
    ∃ l s', (list "" { limit := 1 }).runOn
        { store := { segments := [seg₁, seg₂], byObject := [seg₁, seg₂] } } = (.ok (.ok l), s') ∧
      l.segments = [seg₁] ∧ l.nextPage = SegmentKey.toToken ⟨"", 999999999⟩ ∧
      (list "" { page := l.nextPage, limit := 1 }).runOn s' =
        (.ok (.error (.invalid .pageWithoutFlow)), s') := by
  intro seg₁ seg₂
  have hplan : (plan "" { ({ limit := 1 } : ListParams) with limit := clampLimit 1 }).runOn
      { store := { segments := [seg₁, seg₂], byObject := [seg₁, seg₂] } } =
        (.ok (.ok ({ flow := "", limit := 1 }, true)),
          { store := { segments := [seg₁, seg₂], byObject := [seg₁, seg₂] } }) :=
    rfl
  obtain ⟨l, s', hlist, -, -, hsegs, hnext⟩ := runOn_list "" { limit := 1 } rfl hplan rfl
  have hpage : (({ segments := [seg₁, seg₂], byObject := [seg₁, seg₂] } : Store).query
      { flow := "", limit := 1 }) =
      { segments := [seg₁], lastKey := some ⟨"", 999999999⟩ } := rfl
  simp only [if_true, hpage, Option.map_some, Option.getD_some] at hsegs hnext
  have htok :
      SegmentKey.ofToken (SegmentKey.toToken ⟨"", 999999999⟩) = .error .pageWithoutFlow := by
    rw [SegmentKey.ofToken_toToken _ (by decide)]
    rfl
  refine ⟨l, s', hlist, hsegs, hnext, ?_⟩
  have hlim : ¬ (1 : Int) < 0 := by decide
  simp only [list, ListParams.validate, hnext, SegmentKey.toToken_ne_empty, htok, Except.map,
    hlim, Bool.false_eq_true, if_false, refuse, runOn_bind, runOn_throw]

end ServiceM

end MediaTimeline
