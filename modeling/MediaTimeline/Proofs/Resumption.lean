import Mathlib
import MediaTimeline.Proofs.RequestRuns

/-! Resuming a delete request. -/

namespace MediaTimeline

namespace ServiceM

open TimeRange

variable {st : Store} {flow : String} {T : TimeRange}

theorem pending_filter_contains (hidx : Store.Indexed st.segments) (hr : T.isEmpty = true ∨ T.Keyed)
    (size : Int) :
    (pending st flow size T).filter (T.contains ·.range) =
      st.segments.filter fun x => x.flow = flow ∧ T.contains x.range = true := by
  cases he : T.isEmpty
  case false =>
    have hk := hr.resolve_left (by simp [he])
    rw [pending, if_neg (by simp [he])]
    refine eq_of_sublist_of_mem_iff (List.filter_sublist.trans (batchMatches_sublist st flow size T))
      List.filter_sublist (Store.Ordered.nodup hidx.ordered) fun x => ?_
    simp only [List.mem_filter, mem_batchMatches hidx hk, decide_eq_true_eq]
    constructor
    · rintro ⟨⟨hx, hf, -⟩, hc⟩
      exact ⟨hx, hf, hc⟩
    · rintro ⟨hx, hf, hc⟩
      exact ⟨⟨hx, hf, meetsOnGrid_of_contains hidx hx hk hc⟩, hc⟩
  case true =>
    rw [pending, if_pos he, List.filter_nil, eq_comm, List.filter_eq_nil_iff]
    intro x hx hp
    obtain ⟨-, hc⟩ := of_decide_eq_true hp
    obtain ⟨hne, -⟩ := Segment.keysOf_eq_ok.1 (hidx.keyed x hx)
    simp [isEmpty_of_contains hc hne] at he

/-- A delete request as a submission makes it, run again and again on any budgets until it is done,
ends as one run on a budget that never runs low ends: done with nothing left, the flow without
exactly the segments that the range to delete holds, the same count of batches and of removed
segments, and cleanup handed the objects of the same pages in the same order. -/
theorem resumed_runs_match_one_run (req : DeleteRequest) {s : Service} (hs : s.Calm) {n : Nat}
    (hn : 0 < n) (hsize : s.config.batchSize = n) (hcreated : req.status = .created)
    (hrem : req.remaining = req.toDelete) (hr : req.toDelete.isEmpty = true ∨ req.toDelete.Keyed)
    (ts : List (Nat → Int))
    (hlen : batchCount (pending s.store req.flow n req.toDelete).length n ≤ ts.length)
    (budget : Nat → Int) (hbudget : ∀ k, s.config.safetyMargin < budget k) :
    let gone := s.store.segments.filter fun x =>
      x.flow = req.flow ∧ req.toDelete.contains x.range = true
    let work := pagesCleanup req.toDelete (max (s.config.maxMessageSize - cleanupEnvelope) 1) n
      (pending s.store req.flow n req.toDelete) (batchCount (pending s.store req.flow n req.toDelete).length n)
    ∃ rs req' s' r₁ req₁ s₁, (runEach req ts).runOn s = (.ok (.ok (rs, req')), s') ∧
      (runRequest req budget).runOn s = (.ok (.ok (r₁, req₁)), s₁) ∧
      req'.status = .done ∧ req'.remaining = .never ∧ req₁.status = .done ∧ req₁.remaining = .never ∧
      s'.store.segments = s.store.segments.filter (· ∉ gone) ∧ s₁.store.segments = s'.store.segments ∧
      (rs.map (·.deleted)).sum = gone.length ∧ r₁.deleted = gone.length ∧
      (rs.map (·.batches)).sum = r₁.batches ∧ s.Queued s' work ∧ s.Queued s₁ work := by
  intro gone work
  set ms := pending s.store req.flow n req.toDelete with hms
  have hc : req.toDelete.IsCursor req.remaining := by
    rw [hrem]
    cases he : req.toDelete.isEmpty
    · exact .inr ⟨he, hr.resolve_left (by simp [he]), contains_self _, rfl⟩
    · exact .inl he
  have hterm : req.terminal = false := by simp [DeleteRequest.terminal, hcreated]
  have hpend : pending s.store req.flow n req.remaining = ms := by rw [hrem]
  have hgone : ms.filter (req.toDelete.contains ·.range) = gone :=
    pending_filter_contains hs.indexed hr n
  obtain ⟨rs, req', s', hrun, hdone, hnever, hbs, hds, hseg, -, hq⟩ :=
    runEach_queued req ts hs hn hsize hterm hc hpend hlen
  obtain ⟨r₁, req₁, s₁, hrun₁, ⟨-, -, -, -, -, -, -, hd₁, hseg₁, hend₁⟩, hq₁⟩ :=
    runRequest_queued req budget hs hn hsize hterm hc hpend
  rcases hend₁ with ⟨-, hdone₁, hnever₁, hcount₁⟩ | ⟨-, -, -, -, k, hk⟩
  · -- the one run makes every batch, so its pages hold every match
    have hall : ms.take (r₁.batches * n) = ms := by rw [hcount₁]; exact take_batchCount hn ms
    rw [hall, hgone] at hd₁ hseg₁
    rw [hgone] at hds hseg
    refine ⟨rs, req', s', r₁, req₁, s₁, hrun, hrun₁, hdone, hnever, hdone₁, hnever₁, hseg,
      hseg₁.trans hseg.symm, hds, hd₁, by rw [hbs, hcount₁], hq, by rwa [hcount₁] at hq₁⟩
  · exact absurd hk (not_le.2 (hbudget k))

/-- Two one-second segments in batches of one: two runs that each stop after one batch leave what
one run with time enough leaves, and hand cleanup the same objects. -/
theorem resumed_runs_match_one_run_two_segments :
    let seg₁ : Segment := ⟨"f", "o1", ⟨some ⟨⟨0⟩, true⟩, some ⟨⟨1000000000⟩, false⟩⟩, "", "",
      none, none, none, [], 0, 999999999⟩
    let seg₂ : Segment := ⟨"f", "o2", ⟨some ⟨⟨1000000000⟩, true⟩, some ⟨⟨2000000000⟩, false⟩⟩,
      "", "", none, none, none, [], 1000000000, 1999999999⟩
    let req : DeleteRequest :=
      ⟨"d", "f", false, .eternity, .eternity, .created, none, "", .zero, .zero⟩
    let s : Service :=
      { config := { batchSize := 1 }, store := { segments := [seg₁, seg₂], byObject := [seg₁, seg₂] } }
    let ts : List (Nat → Int) := [fun _ => 0, fun _ => 0]
    s.Calm ∧ batchCount (pending s.store req.flow 1 req.toDelete).length 1 ≤ ts.length ∧
      ∃ rs req' s' r₁ req₁ s₁, (runEach req ts).runOn s = (.ok (.ok (rs, req')), s') ∧
        (runRequest req fun _ => 3600000000000).runOn s = (.ok (.ok (r₁, req₁)), s₁) ∧
        req'.status = .done ∧ req₁.status = .done ∧ s'.store.segments = [] ∧
        s₁.store.segments = [] ∧ (rs.map (·.batches)).sum = r₁.batches ∧
        ∃ bs, s.Queued s' bs ∧ s.Queued s₁ bs := by
  intro seg₁ seg₂ req s ts
  have hidx : s.Indexed := by decide
  have hcalm : s.Calm := ⟨hidx, rfl, rfl, rfl, ⟨rfl, rfl⟩, by decide⟩
  have hlen : batchCount (pending s.store req.flow 1 req.toDelete).length 1 ≤ ts.length := by decide
  obtain ⟨rs, req', s', r₁, req₁, s₁, hrun, hrun₁, hdone, -, hdone₁, -, hseg, hseg₁, -, -, hbs, hq,
    hq₁⟩ := resumed_runs_match_one_run req hcalm one_pos rfl rfl rfl (.inr keyed_eternity) ts hlen
      (fun _ => 3600000000000) fun _ => by decide
  have hnil : s'.store.segments = [] := by
    rw [hseg]
    decide
  exact ⟨hcalm, hlen, rs, req', s', r₁, req₁, s₁, hrun, hrun₁, hdone, hdone₁, hnil, hseg₁.trans hnil,
    hbs, _, hq, hq₁⟩

end ServiceM

end MediaTimeline
