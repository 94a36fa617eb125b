import Mathlib
import MediaTimeline.Proofs.Effects
import MediaTimeline.Proofs.DeletionSafety

/-! The objects of removed segments go to cleanup. -/

namespace MediaTimeline

namespace Store

/-- Keeping the members of a sublist of a list without repeats gives the sublist back. -/
theorem filter_mem_of_sublist {d l : List Segment} (hd : d.Sublist l) (hl : l.Nodup) :
    l.filter (· ∈ d) = d := by
  induction hd with
  | slnil => rfl
  | cons a h ih =>
    have ha : a ∉ _ := fun h' => (List.nodup_cons.1 hl).1 (h.subset h')
    rw [List.filter_cons_of_neg (by simpa using ha)]
    exact ih (List.nodup_cons.1 hl).2
  | @cons_cons d l a h ih =>
    rw [List.filter_cons_of_pos (by simp)]
    congr 1
    have hrest : l.filter (· ∈ a :: d) = l.filter (· ∈ d) := List.filter_congr fun x hx => by
      have hxa : x ≠ a := fun he => (List.nodup_cons.1 hl).1 (he ▸ hx)
      simp [hxa]
    rw [hrest]
    exact ih (List.nodup_cons.1 hl).2

theorem filter_notMem_filter_notMem {d l : List Segment} (hd : d.Sublist l) (hl : l.Nodup) :
    l.filter (· ∉ l.filter (· ∉ d)) = d := by
  rw [← filter_mem_of_sublist hd hl]
  exact List.filter_congr fun x hx => by simp [hx]

theorem Ordered.nodup {st : Store} (h : st.Ordered) : st.segments.Nodup :=
  h.imp fun {a b} hab he => by
    subst he
    simp [SegmentKey.before_irrefl] at hab

theorem prefix_addNew (held ids : List String) : held <+: addNew held ids := by
  induction ids generalizing held with
  | nil => exact List.prefix_refl held
  | cons i ids ih =>
    rw [addNew_cons]
    split_ifs
    · exact ih held
    · exact (List.prefix_append held [i]).trans (ih _)

theorem addNew_ne_nil {held ids : List String} (h : ids ≠ []) : addNew held ids ≠ [] := by
  obtain ⟨i, ids, rfl⟩ := List.exists_cons_of_ne_nil h
  rw [addNew_cons]
  refine List.ne_nil_of_mem (a := i) ((prefix_addNew _ ids).subset ?_)
  split_ifs with hi
  · exact List.contains_iff_mem.1 hi
  · exact List.mem_append_right _ (List.mem_singleton_self i)

end Store

def BatchReport.HandsOff (b : BatchReport) (flow : String) (s₀ s : Service) : Prop :=
  let gone := s₀.store.segments.filter (· ∉ s.store.segments)
  let objs := Store.addNew [] (gone.map (·.object))
  b.deleted = gone.length ∧ b.objects = objs.length ∧ s₀.accepted <+: s.accepted ∧
    (∃ (p : EventPayload) (bs : List (List String)),
      p.name = segmentsDeletedEvent ∧ p.flow = flow ∧
      p.range = ((gone.map (·.range)).foldl TimeRange.extend TimeRange.never).toText ∧
      p.count = gone.length ∧ bs.flatten = objs ∧
      (s.accepted.drop s₀.accepted.length).map Task.work =
        (if gone ≠ [] ∧ s₀.config.events then [(eventTask, p.toDoc.render)] else []) ++
          ServiceM.cleanupWork bs) ∧
    (gone ≠ [] → s₀.outages.touch = false → ∀ f, s₀.store.getFlow flow = .ok f →
      ∃ t, s.store.getFlow flow = .ok { f with segmentsUpdated := some t })

theorem BatchReport.handsOff_of_untouched {b : BatchReport} {flow : String} {s₀ s : Service}
    (hd : b.deleted = 0) (ho : b.objects = 0) (hst : s.store.segments = s₀.store.segments)
    (hacc : s.accepted = s₀.accepted) : b.HandsOff flow s₀ s := by
  have hgone : s₀.store.segments.filter (· ∉ s.store.segments) = [] := by simp [hst]
  simp only [BatchReport.HandsOff, hgone]
  refine ⟨hd, ho, by rw [hacc],
    ⟨⟨segmentsDeletedEvent, flow, TimeRange.never.toText, 0, 0, ""⟩, [], ?_⟩, fun h => absurd rfl h⟩
  simp [hacc, ServiceM.cleanupWork]

theorem BatchReport.handsOff_of_quiet {flow : String} {s₀ s : Service} (h : s₀.Quiet s) :
    ({} : BatchReport).HandsOff flow s₀ s :=
  handsOff_of_untouched rfl rfl (by rw [h.1]) h.2.2.1

open ServiceM in
/-- Whatever call of a batch fails, the segments it removed before are counted, announced,
stamped on their flow and handed to cleanup, on a queue that takes tasks. -/
theorem batch_hands_removed_objects_to_cleanup (flow : String) (T c : TimeRange) (s₀ : Service)
    (hup : s₀.TakesTasks) {b : BatchReport} {failure : Option Fault}
    {s : Service} (hrun : (runBatch flow T c).runOn s₀ = (.ok (.ok (b, failure)), s)) :
    b.HandsOff flow s₀ s := by
  have hquiet := fun p =>
    runOn_of_always (plan_quiet_spec s₀ flow p) (s := s₀) ⟨rfl, rfl, rfl, rfl, rfl⟩
  have hbounds := fun p =>
    runOn_of_triple (plan_bounds_spec flow p s₀) s₀ (Service.bookkept_refl s₀)
  simp only [runBatch, runOn_bind, runOn_get, runOn_tryCatch, runOn_map] at hrun
  rcases hplan : (plan flow { range := some c, limit := s₀.config.batchSize }).runOn s₀ with
    ⟨(cr | (e | ⟨q, ok⟩)), s₁⟩
  all_goals
    have hq₁ := hquiet { range := some c, limit := s₀.config.batchSize }
    rw [hplan] at hq₁
    simp only [hplan] at hrun
  · cases hrun
  · simp only [runOn_pure, Prod.mk.injEq, Except.ok.injEq] at hrun
    obtain ⟨⟨rfl, rfl⟩, rfl⟩ := hrun
    exact BatchReport.handsOff_of_quiet hq₁
  have hb₁ := hbounds { range := some c, limit := s₀.config.batchSize }
  rw [hplan] at hb₁
  obtain ⟨-, hqflow, hqrev, -⟩ := hb₁
  cases ok
  · simp only [runOn_pure, Prod.mk.injEq, Except.ok.injEq] at hrun
    obtain ⟨⟨rfl, rfl⟩, rfl⟩ := hrun
    exact BatchReport.handsOff_of_quiet hq₁
  simp only [runOn_bind, runOn_tryCatch, runOn_map, runOn_query] at hrun
  by_cases hout : countCall s₁.outages.queryAfter s₁.outages.queries
  · simp only [hout, if_true, runOn_pure, Prod.mk.injEq, Except.ok.injEq] at hrun
    obtain ⟨⟨rfl, rfl⟩, rfl⟩ := hrun
    exact BatchReport.handsOff_of_quiet hq₁
  simp only [hout, Bool.false_eq_true, if_false] at hrun
  obtain ⟨hst₁, hqueue₁, hacc₁, hcfg₁, hset₁⟩ := hq₁
  dsimp only at hst₁ hqueue₁ hacc₁ hcfg₁ hset₁ hqflow hqrev
  set items := trimEnds T (·.range) (s₁.store.query q).segments
  have hsub : items.Sublist s₀.store.segments := by
    rw [← hst₁]
    exact (trimEnds_sublist _).trans (Store.query_sublist (by simpa using hqrev))
  have hflow : ∀ i ∈ items, i.flow = flow := fun i hi =>
    (SegmentQuery.flow_of_selects
      (Store.selects_of_mem_query ((trimEnds_sublist _).subset hi))).trans hqflow
  obtain ⟨k, hk, failure', s₃, hrb, hst₃, hset₃, hacc₃, -, -⟩ :=
    runOn_removeBatch flow items 0 TimeRange.never []
      { s₁ with outages := { s₁.outages with queries := s₁.outages.queries + 1 } }
      (by rw [hst₁]; exact hsub) hflow
  simp only [runOn_bind, hrb] at hrun
  have hset₀ : s₀.Settled s₃ :=
    (show s₀.Settled s₁ from ⟨hcfg₁, hset₁, by rw [hqueue₁]⟩).trans hset₃
  have hup₃ : s₃.TakesTasks := hup.of_settled hset₀
  have hseg₃ : s₃.store.segments = s₀.store.segments.filter (· ∉ items.take k) := by
    rw [hst₃]; simp [hst₁]
  have hflows₃ : s₃.store.flows = s₀.store.flows := by
    rw [hst₃]; simp [hst₁]
  have hgone : ∀ st : Store, st.segments = s₃.store.segments →
      s₀.store.segments.filter (· ∉ st.segments) = items.take k := fun st h => by
    rw [h, hseg₃]
    exact Store.filter_notMem_filter_notMem ((List.take_sublist k items).trans hsub)
      (Store.Ordered.nodup s₀.store.ordered)
  rcases k with _ | j
  · -- nothing went, and nothing was sent
    simp only [Nat.add_zero, Nat.lt_irrefl, if_false, List.take_zero, List.map_nil,
      Store.addNew_nil, List.isEmpty_nil, if_true, runOn_pure, Prod.mk.injEq,
      Except.ok.injEq] at hrun
    obtain ⟨⟨rfl, rfl⟩, rfl⟩ := hrun
    exact BatchReport.handsOff_of_untouched rfl rfl (by rw [hseg₃]; simp)
      (by rw [hacc₃, hacc₁])
  have hlen : (items.take (j + 1)).length = j + 1 := List.length_take_of_le hk
  have hne : items.take (j + 1) ≠ [] := List.ne_nil_of_length_pos (by omega)
  have hobjs : (Store.addNew [] ((items.take (j + 1)).map (·.object))).isEmpty = false := by
    rw [List.isEmpty_eq_false_iff]
    exact Store.addNew_ne_nil (by simpa using hne)
  simp only [show 0 < 0 + (j + 1) by omega, if_true, runOn_bind] at hrun
  obtain ⟨st₄, htouch, hseg₄, hstamp⟩ := runOn_touchFlow_quiet flow s₃
  obtain ⟨s₅, p, ts₁, hnote, hacc₅, hwork₅, hname, hpflow, hprange, hpcount, hst₅, -, -, hup₅⟩ :=
    runOn_noteSegmentsDeleted flow
      (((items.take (j + 1)).map (·.range)).foldl TimeRange.extend TimeRange.never)
      ↑(0 + (j + 1)) { s₃ with clock := s₃.clock + 1, store := st₄ } hup₃
  simp only [htouch, hnote, hobjs, Bool.false_eq_true, if_false, runOn_bind, runOn_tryCatch,
    runOn_map] at hrun
  have hd := runOn_dispatch (Store.addNew [] ((items.take (j + 1)).map (·.object))) s₅ hup₅
  rcases hpack : Cleanup.pack (Store.addNew [] ((items.take (j + 1)).map (·.object)))
      (max (s₅.config.maxMessageSize - cleanupEnvelope) 1) with e | bs
  all_goals rw [hpack] at hd
  · -- a cap the batching cannot follow crashes the run, which did not crash
    simp only [hd] at hrun
    cases hrun
  obtain ⟨s₆, ts₂, hdisp, hacc₆, hwork₆, hst₆, -, -, -⟩ := hd
  simp only [hdisp, runOn_pure, Prod.mk.injEq, Except.ok.injEq] at hrun
  obtain ⟨⟨rfl, rfl⟩, rfl⟩ := hrun
  have hacc : s₆.accepted = s₀.accepted ++ (ts₁ ++ ts₂) := by
    rw [hacc₆, hacc₅, List.append_assoc]
    show s₃.accepted ++ _ = _
    rw [hacc₃, hacc₁]
  simp only [BatchReport.HandsOff, hgone s₆.store (by rw [hst₆, hst₅]; exact hseg₄)]
  refine ⟨by simp [hlen], trivial, by rw [hacc]; exact List.prefix_append _ _,
    ⟨p, bs, hname, hpflow, hprange, by rw [hpcount, hlen]; simp, Cleanup.flatten_of_pack hpack,
      ?_⟩,
    fun _ htouch₀ f hf => ⟨Instant.ofNanos (s₃.clock + 1), ?_⟩⟩
  · rw [hacc, List.drop_left, List.map_append, hwork₅, hwork₆]
    simp [hne, hset₀.1]
  · rw [hst₆, hst₅]
    refine hstamp ((congrArg Outages.touch hset₀.2.1).trans htouch₀) f ?_
    unfold Store.getFlow
    rw [hflows₃]
    exact hf

theorem batch_hands_removed_objects_to_cleanup_one :
    let seg₁ : Segment := ⟨"f", "o1", ⟨some ⟨⟨0⟩, true⟩, some ⟨⟨1000000000⟩, false⟩⟩, "", "",
      none, none, none, [], 0, 999999999⟩
    let seg₂ : Segment := ⟨"f", "o1", ⟨some ⟨⟨1000000000⟩, true⟩, some ⟨⟨2000000000⟩, false⟩⟩,
      "", "", none, none, none, [], 1000000000, 1999999999⟩
    let s₀ : Service :=
      { store := { segments := [seg₁, seg₂], byObject := [seg₁, seg₂], flows := [{ id := "f" }] },
        outages := { deleteAfter := some 1 } }
    ∃ (b : BatchReport) (e : Fault) (s : Service),
      (ServiceM.runBatch "f" ⟨none, none⟩ ⟨none, none⟩).runOn s₀ = (.ok (.ok (b, some e)), s) ∧
        b.deleted = 1 ∧ b.HandsOff "f" s₀ s := by
  intro seg₁ seg₂ s₀
  have hdone : (((ServiceM.runBatch "f" ⟨none, none⟩ ⟨none, none⟩).runOn s₀).1.toOption.bind
      fun r => r.toOption.map fun r => (r.1.deleted, r.2.isSome)) = some (1, true) := by
    decide +kernel
  rcases hrun : (ServiceM.runBatch "f" ⟨none, none⟩ ⟨none, none⟩).runOn s₀ with
    ⟨(c | (e | ⟨b, _ | e⟩)), s⟩
  all_goals rw [hrun] at hdone
  · cases hdone
  · cases hdone
  · simp [Except.toOption] at hdone
  · exact ⟨b, e, s, rfl, congrArg Prod.fst (Option.some.inj hdone),
      batch_hands_removed_objects_to_cleanup "f" _ _ s₀ ⟨rfl, rfl⟩ hrun⟩

/-- Removing an object's segments outside a request, when the second removal fails, leaves the
first segment removed and queues nothing: no event, no cleanup of its object. -/
theorem object_delete_failure_skips_cleanup :
    let seg₁ : Segment := ⟨"f", "o1", ⟨some ⟨⟨0⟩, true⟩, some ⟨⟨1000000000⟩, false⟩⟩, "", "",
      none, none, none, [], 0, 999999999⟩
    let seg₂ : Segment := ⟨"f", "o1", ⟨some ⟨⟨1000000000⟩, true⟩, some ⟨⟨2000000000⟩, false⟩⟩,
      "", "", none, none, none, [], 1000000000, 1999999999⟩
    ∃ e s, (ServiceM.deleteObjectSegments "f" "o1" TimeRange.eternity).runOn
        { store := { segments := [seg₁, seg₂], byObject := [seg₁, seg₂], flows := [{ id := "f" }] },
          outages := { deleteAfter := some 1 } } = (.ok (.error e), s) ∧
      s.store.segments = [seg₂] ∧ s.accepted = [] := by
  intro seg₁ seg₂
  have hleft : (let r := ((ServiceM.deleteObjectSegments "f" "o1" TimeRange.eternity).runOn
        { store := { segments := [seg₁, seg₂], byObject := [seg₁, seg₂], flows := [{ id := "f" }] },
          outages := { deleteAfter := some 1 } })
      r.1.toOption.map Except.toBool == some false && decide (r.2.store.segments = [seg₂]) &&
        r.2.accepted.isEmpty) = true := by decide +kernel
  rcases hrun : (ServiceM.deleteObjectSegments "f" "o1" TimeRange.eternity).runOn
        { store := { segments := [seg₁, seg₂], byObject := [seg₁, seg₂], flows := [{ id := "f" }] },
          outages := { deleteAfter := some 1 } } with ⟨(c | (e | n)), s⟩
  all_goals rw [hrun] at hleft
  · cases hleft
  · simp only [Bool.and_eq_true, decide_eq_true_eq, List.isEmpty_iff] at hleft
    exact ⟨e, s, rfl, hleft.1.2, hleft.2⟩
  · cases hleft

end MediaTimeline
