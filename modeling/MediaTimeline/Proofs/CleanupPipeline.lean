import Mathlib
import MediaTimeline.Proofs.BlobSweep
import MediaTimeline.Proofs.IndexInvariant
import MediaTimeline.Proofs.Delivery
import MediaTimeline.Proofs.QueueRuns
import MediaTimeline.Proofs.Submission

/-! The cleanup pipeline strands no object. -/

set_option mvcgen.warning false

namespace MediaTimeline

/-! ### Posts -/

/-- What a post leaves of the stored segments: they are as they were, or the segment is stored
with its keys, meeting none of them; and no setting changed. -/
def Service.Posted (seg : Segment) (s₀ s : Service) : Prop :=
  s₀.Settled s ∧ (s.store.segments = s₀.store.segments ∨
    ∃ r, seg.withKeys = .ok r ∧ (∀ t ∈ s₀.store.segments, ¬ t.Meets r) ∧
      s.store.segments = Store.placeSegment r s₀.store.segments)

namespace ServiceM

open Std.Do Service

theorem postSegment_posted (flow : String) (seg : Segment) (s₀ : Service) :
    ⦃fun s => ⌜s = s₀⌝⦄ postSegment flow seg ⦃always (Posted { seg with flow := flow } s₀)⦄ := by
  mvcgen [postSegment] with simp_all +zetaDelta [Posted, Bookkept, Settled, Store.putSegment]

end ServiceM

namespace Cleanup

open JsonValue

theorem size_renderItems_perm {vs ws : List JsonValue} (h : vs.Perm ws) :
    (renderItems vs).utf8ByteSize = (renderItems ws).utf8ByteSize := by
  induction h with
  | nil => rfl
  | @cons v l₁ l₂ h ih =>
    match l₁, l₂, h with
    | [], l₂, h => rw [← List.Perm.nil_eq h]
    | a :: as, [], h => exact absurd h.length_eq (by simp)
    | a :: as, b :: bs, _ => rw [size_renderItems_cons_cons, size_renderItems_cons_cons, ih]
  | swap x y l =>
    cases l with
    | nil =>
      rw [size_renderItems_cons_cons, size_renderItems_cons_cons]
      simp only [renderItems]
      omega
    | cons z zs =>
      simp only [size_renderItems_cons_cons]
      omega
  | trans _ _ ih₁ ih₂ => exact ih₁.trans ih₂

theorem arraySize_perm {ids ids' : List String} (h : ids.Perm ids') : arraySize ids = arraySize ids' := by
  rw [arraySize_eq, arraySize_eq, size_renderItems_perm (h.map _)]

end Cleanup

theorem Store.perm_placeSegment {s : Segment} {l : List Segment} (h : ∀ t ∈ l, t.key ≠ s.key) :
    (placeSegment s l).Perm (s :: l) := by
  induction l with
  | nil => rfl
  | cons t ts ih =>
    have ht : s.key ≠ t.key := fun he => h t List.mem_cons_self he.symm
    simp only [placeSegment, Store.place] at ih ⊢
    simp only [beq_iff_eq, ht, if_false]
    split
    · rfl
    · exact ((ih fun u hu => h u (List.mem_cons_of_mem t hu)).cons t).trans (List.Perm.swap s t ts)

theorem Segment.object_of_withKeys {seg r : Segment} (h : seg.withKeys = .ok r) : r.object = seg.object := by
  simp only [Segment.withKeys, except_map_eq_ok] at h
  obtain ⟨_, -, rfl⟩ := h
  rfl

namespace Service

variable {s s' : Service}

def FitsWith (s : Service) (o : String) : Prop :=
  (Cleanup.arraySize (o :: s.store.segments.map (·.object)) : Int) +
    max (s.config.maxMessageSize - ServiceM.cleanupEnvelope) 1 ≤ 2 ^ 63

def RemovesUnheld (s s' : Service) : Prop :=
  ∀ j o, s.blobs.Holds j o → ¬ s'.blobs.Holds j o → ∀ seg ∈ s.store.segments, seg.object ≠ o

theorem removesUnheld_of_blobs (h : s'.blobs = s.blobs) : s.RemovesUnheld s' := by
  intro j o hs hs'
  rw [h] at hs'
  exact absurd hs hs'

theorem Posted.keeps {seg : Segment} (h : Posted seg s s') (hi : s.Indexed)
    (hs : ¬ seg.range.IsSliver) (hf : s.Fits) (hfit : s.FitsWith seg.object) :
    s.store.segments.Sublist s'.store.segments ∧ s'.Indexed ∧ s'.Fits := by
  obtain ⟨hset, heq | ⟨r, hr, hfree, hplaced⟩⟩ := h
  · refine ⟨heq ▸ List.Sublist.refl _, ?_, hf.of_sublist hset.1 (by rw [heq])⟩
    unfold Service.Indexed
    rw [heq]
    exact hi
  · have hle := Segment.start_le_stop_of_withKeys hr hs
    have hkey : ∀ t ∈ s.store.segments, t.key ≠ r.key := Store.key_ne_of_not_overlaps hi hle
      fun t ht ho => hfree t ht ((hi.meets_iff_overlaps ht hle).2 ho)
    have hobj : (s'.store.segments.map (·.object)).Perm (seg.object :: s.store.segments.map (·.object)) := by
      rw [hplaced, ← Segment.object_of_withKeys hr]
      exact (Store.perm_placeSegment hkey).map _
    refine ⟨hplaced ▸ (hi.sublist_insert hr hs hfree).1, ?_, ?_⟩
    · unfold Service.Indexed
      rw [hplaced]
      exact hi.insert hr hs hfree
    · unfold Fits
      rw [hset.1, Cleanup.arraySize_perm hobj]
      exact hfit

end Service

/-! ### Steady states under a worker's steps -/

namespace TaskQueue

variable {q q' : TaskQueue} {n : Nat} {now : Instant} {id : String}

theorem IdsIssued.replace (h : q.IdsIssued n) (t : Task) : (q.replace t).IdsIssued n where
  nodup := by
    rw [TaskQueue.replace_ids]
    exact h.nodup
  generated u hu := by
    obtain ⟨v, hv, rfl⟩ := List.mem_map.1 hu
    obtain ⟨k, hk, hid⟩ := h.generated v hv
    refine ⟨k, hk, ?_⟩
    by_cases hvt : v.id = t.id
    · simpa [hvt] using hid
    · simpa [hvt] using hid

theorem complete_replace_id (h : q.complete now id = .ok q') : ∃ t, t.id = id ∧ q' = q.replace t := by
  cases hg : q.get id with
  | error e => simp [complete, hg] at h
  | ok r =>
    simp only [complete, hg, Except.map, Except.ok.injEq] at h
    exact ⟨{ r with status := .completed, completedAt := some now, updatedAt := now }, get_id (t := r) hg,
      h.symm⟩

end TaskQueue

namespace Service

variable {s : Service}

theorem Steady.tick (h : s.Steady) (c : Int) : ({ s with clock := c } : Service).Steady :=
  h.of_settled ⟨rfl, rfl, rfl⟩ h.indexed h.ids

theorem Steady.replace (h : s.Steady) (t : Task) (c : Int) :
    ({ s with clock := c, queue := s.queue.replace t } : Service).Steady :=
  h.of_settled ⟨rfl, rfl, rfl⟩ h.indexed (h.ids.replace t)

theorem Steady.clearObjects (h : s.Steady) (ids : List String) : (s.clearObjects ids).Steady :=
  h.of_settled ⟨rfl, rfl, rfl⟩ h.indexed h.ids

end Service

theorem Ledger.Sweeps.deliveries {g : Ledger} {s : Service} (h : g.Sweeps s) (d : List Delivery) :
    g.Sweeps { s with deliveries := d } where
  feeds := h.feeds
  objects := h.objects
  steady := h.steady.of_settled ⟨rfl, rfl, rfl⟩ h.steady.indexed h.steady.ids
  fits := h.fits
  accounted := h.accounted

theorem Task.Owes.running {t : Task} {o : String} (h : t.Owes o) (worker : String) (now : Instant) :
    ({ t with status := .running, worker := worker, startedAt := some now, updatedAt := now } : Task).Owes o :=
  ⟨h.1, .inr rfl, h.2.2⟩

namespace ServiceM

open Std.Do Service Ledger

variable (g : Ledger)

theorem handleDeleteRequest_sweeps (taskId payload : String) :
    ⦃fun s => ⌜g.Sweeps s⌝⦄ handleDeleteRequest taskId payload ⦃always g.Sweeps⦄ := by
  have hrunRequest := @runRequest_sweeps
  mvcgen [handleDeleteRequest, hrunRequest, -runRequest_spec]

theorem handleEvent_sweeps (payload : String) :
    ⦃fun s => ⌜g.Sweeps s⌝⦄ handleEvent payload ⦃always g.Sweeps⦄ := by
  mvcgen [handleEvent]
  case vc3 => exact ‹g.Sweeps _›.deliveries _
  case vc4 => exact (‹g.Sweeps _›.deliveries _).deliveries _

theorem runTask_sweeps {t : Task} (hk : t.kind ≠ objectCleanupTask) :
    ⦃fun s => ⌜g.Sweeps s⌝⦄ runTask t ⦃always g.Sweeps⦄ := by
  have hdelete := @handleDeleteRequest_sweeps
  have hevent := @handleEvent_sweeps
  have hcleanup : (t.kind == objectCleanupTask) = false := by simpa using hk
  mvcgen [runTask, handle, hcleanup, hdelete, hevent]

theorem state_runTask_cleanup {t : Task} (hk : t.kind = objectCleanupTask) {s : Service}
    (hc : s.outages.countReferences = false) : ((runTask t).runOn s).2 = s.clearObjects t.cleanupIds := by
  have hscripted : (objectCleanupTask == scriptedTask) = false := by decide
  have hdelete : (objectCleanupTask == deleteRequestTask) = false := by decide
  simp only [runTask, handle, hk, hscripted, hdelete, Bool.false_eq_true, if_false, beq_self_eq_true,
    if_true]
  exact state_handleObjectCleanup t hc

def Reported (id : String) (s s' : Service) : Prop :=
  s' = ticked s ∨ ∃ t : Task, t.id = id ∧ s' = { ticked s with queue := s.queue.replace t }

theorem Reported.blobs {id : String} {s s' : Service} (h : Reported id s s') : s'.blobs = s.blobs := by
  rcases h with rfl | ⟨t, -, rfl⟩ <;> rfl

theorem reportEnd_reported (id : String) (e : RunEnd) {s : Service} (hup : s.outages.queueCalls = []) :
    Reported id s ((reportEnd id e).runOn s).2 := by
  cases e with
  | succeeded =>
    rw [reportEnd, runOn_reportDone id s (by simp [hup])]
    split
    · rename_i q hq
      obtain ⟨t, ht, rfl⟩ := TaskQueue.complete_replace_id hq
      exact .inr ⟨t, ht, rfl⟩
    · exact .inl rfl
  | _ =>
    show Reported id s ((reportFailure id _).runOn s).2
    rw [state_reportFailure id _ s (by simp [hup])]
    split
    · rename_i q hq
      obtain ⟨t, ht, rfl⟩ := TaskQueue.fail_replace hq
      exact .inr ⟨t, ht, rfl⟩
    · exact .inl rfl

end ServiceM

/-! ### Steps that account -/

namespace Service

open Std.Do ServiceM

variable {s s₁ s₂ : Service} {id : String}

/-- One step of the cleanup pipeline from `s` to `s'`: the state stays steady and fits, every
object accounted for stays so, and no blob a segment of `s` held leaves a store. -/
structure Accounts (s s' : Service) : Prop where
  steady : s'.Steady
  fits : s'.Fits
  removes : s.RemovesUnheld s'
  accounted : ∀ o, s.ledger.Accounted o → s'.ledger.Accounted o

theorem Accounts.of_sweeps (h : s.ledger.Sweeps s₁) : s.Accounts s₁ :=
  ⟨h.steady, h.fits, removesUnheld_of_blobs h.feeds.1, h.accounted⟩

theorem Accounts.trans_blobs (h : s.Accounts s₁) (h' : s₁.Accounts s₂) (hb : s₂.blobs = s₁.blobs) :
    s.Accounts s₂ where
  steady := h'.steady
  fits := h'.fits
  removes j o hs hs₂ := h.removes j o hs (hb ▸ hs₂)
  accounted o ho := h'.accounted o (h.accounted o ho)

theorem Accounts.of_taken {q : TaskQueue} (h : (afterTake s q).Accounts s₁)
    (hacc : ∀ o, s.ledger.Accounted o → (afterTake s q).ledger.Accounted o) : s.Accounts s₁ :=
  ⟨h.steady, h.fits, h.removes, fun o ho => h.accounted o (hacc o ho)⟩

theorem Accounts.clearObjects (h : s.Steady) (hf : s.Fits) (ids : List String) :
    s.Accounts (s.clearObjects ids) where
  steady := h.clearObjects ids
  fits := hf
  removes j o hs hs' := by
    have hz : o ∈ ids ∧ s.store.countReferences o = 0 := by
      by_contra hne
      exact hs' (holds_clearObjects.2 ⟨hs, fun ho hz => hne ⟨ho, hz⟩⟩)
    exact (Store.countReferences_eq_zero (Store.Indexed.ends64 h.indexed)).1 hz.2
  accounted _ ho := Accounted.clearObjects ho

theorem Accounts.reported (h : s.Steady) (hf : s.Fits) (hr : Reported id s s₁)
    (hrec : ∀ u ∈ s.queue.tasks, u.id = id → ∀ o, u.Owes o →
      (∃ seg ∈ s.store.segments, seg.object = o) ∨ ∀ j, ¬ s.blobs.Holds j o) :
    s.Accounts s₁ := by
  rcases hr with rfl | ⟨t, rfl, rfl⟩
  · exact ⟨h.tick _, hf, removesUnheld_of_blobs rfl, fun _ ho => ho⟩
  · refine ⟨h.replace t _, hf, removesUnheld_of_blobs rfl, fun o ho => ?_⟩
    exact Ledger.Accounted.replace (fun u hu hid o' hu' => .inr (hrec u hu hid o' hu')) ho

theorem Accounts.swept_reported {task : Task} (h : s.ledger.Sweeps s₁) (ht : task ∈ s.queue.tasks)
    (hk : task.kind ≠ objectCleanupTask) (e : RunEnd) :
    s.Accounts ((reportEnd task.id e).runOn s₁).2 := by
  have hr := reportEnd_reported task.id e h.steady.queueCalls
  refine (Accounts.of_sweeps h).trans_blobs (Accounts.reported h.steady h.fits hr ?_) hr.blobs
  intro u hu hid o hu'
  have ht₁ : task ∈ s₁.queue.tasks := by
    rw [h.feeds.2.2.1]
    exact List.mem_append_left _ ht
  have hut : u = task := List.inj_on_of_nodup_map h.steady.ids.nodup hu ht₁ hid
  exact absurd (hut ▸ hu'.1) hk

/-- One call of a worker that handles cleanup tasks accounts: the task it takes is marked running
and owes what it owed; a cleanup task then removes the objects it lists that no segment holds,
so its report leaves none of them owed and unsettled; any other task sweeps. -/
theorem processOne_accounts {w : Worker} (hw : objectCleanupTask ∈ w.handlers) (hs : s.Steady)
    (hf : s.Fits) : s.Accounts ((processOne w).runOn s).2 := by
  have hup : s.outages.queueCalls = [] := hs.queueCalls
  rw [processOne, state_processOneWith runTask w s (by simp [hup])]
  rcases hd : s.queue.dequeue (nextInstant s) workerName w.takes with _ | ⟨_ | task, q⟩
  · exact ⟨hs.tick _, hf, removesUnheld_of_blobs rfl, fun _ ho => ho⟩
  · exact ⟨hs.tick _, hf, removesUnheld_of_blobs rfl, fun _ ho => ho⟩
  obtain ⟨t₀, ht₀, -, htask, rfl⟩ := TaskQueue.dequeue_some hd
  have h₁ : (afterTake s (s.queue.replace task)).Steady := hs.replace task _
  have hf₁ : (afterTake s (s.queue.replace task)).Fits := hf
  have hmem : task ∈ (s.queue.replace task).tasks := List.mem_map.2 ⟨t₀, ht₀, by simp [htask]⟩
  have hacc : ∀ o, s.ledger.Accounted o → (afterTake s (s.queue.replace task)).ledger.Accounted o := by
    refine fun o ho => Ledger.Accounted.replace (fun u hu hid o' hu' => .inl ?_) ho
    have hut : u = t₀ := List.inj_on_of_nodup_map hs.ids.nodup hu ht₀ (by rw [hid, htask])
    rw [htask]
    exact (hut ▸ hu').running _ _
  dsimp only
  by_cases hk : w.handlers.contains task.kind
  · rw [if_pos hk]
    by_cases hc : task.kind = objectCleanupTask
    · rw [state_runTask_cleanup hc h₁.counts]
      have hr := reportEnd_reported task.id
        (.ofOutcome ((runTask task).runOn (afterTake s (s.queue.replace task))).1)
        (s := (afterTake s (s.queue.replace task)).clearObjects task.cleanupIds) hup
      refine Accounts.of_taken ((Accounts.clearObjects h₁ hf₁ _).trans_blobs
        (Accounts.reported (h₁.clearObjects _) hf₁ hr ?_) hr.blobs) hacc
      intro u hu hid o hu'
      have hut : u = task := TaskQueue.eq_of_mem_replace hu hid
      exact clearObjects_settles (s := afterTake s (s.queue.replace task)) (hut ▸ hu'.2.2)
    · exact Accounts.of_taken (Accounts.swept_reported
        (runOn_of_always (runTask_sweeps _ hc) (Ledger.sweeps_ledger h₁ hf₁)) hmem hc _) hacc
  · rw [if_neg hk]
    have hc : task.kind ≠ objectCleanupTask := fun hc => hk (by simpa [hc] using hw)
    exact Accounts.of_taken (Accounts.swept_reported (Ledger.sweeps_ledger h₁ hf₁) hmem hc _) hacc

/-- A post of a range that is no sliver accounts, when its object fits with the stored ones: it
stores the segment beside the others, replacing none, and changes no blob. -/
theorem postSegment_accounts {flow : String} {seg : Segment} (hs : s.Steady) (hf : s.Fits)
    (hsl : ¬ seg.range.IsSliver) (hfit : s.FitsWith seg.object) :
    s.Accounts ((FlowCall.postSegment flow seg).run.runOn s).2 := by
  have hpost := postSegment_posted
  have htriple : ⦃fun s' => ⌜s' = s⌝⦄ (FlowCall.postSegment flow seg).run
      ⦃always (Posted { seg with flow := flow } s)⦄ := by
    mvcgen [FlowCall.run, hpost]
  have hposted := runOn_ends (E := fun r => Posted { seg with flow := flow } s r.2) htriple s rfl
  have hfeeds := runOn_of_always (FlowCall.run_feeds s.ledger (.postSegment flow seg))
    (Ledger.feeds_ledger hs.ids)
  obtain ⟨hsub, hi, hf'⟩ := hposted.keeps hs.indexed hsl hf hfit
  exact ⟨hs.of_settled hposted.1 hi hfeeds.ids, hf', removesUnheld_of_blobs hfeeds.1,
    fun o ho => hfeeds.accounted_of_objects (fun t ht => ⟨t, hsub.subset ht, rfl⟩) ho⟩

end Service

theorem Ledger.Accounted.unheld {g : Ledger} {o : String} (h : g.Accounted o)
    (hseg : ∀ seg ∈ g.segments, seg.object ≠ o) (htask : ∀ t ∈ g.tasks, ¬ t.Owes o) :
    ∀ j, ¬ g.blobs.Holds j o := by
  rcases h with ⟨seg, hs, rfl⟩ | hnone | ⟨t, ht, hto⟩
  · exact absurd rfl (hseg seg hs)
  · exact hnone
  · exact absurd hto (htask t ht)

/-! ### Runs of the pipeline -/

/-- One step of the cleanup pipeline: a call of the service, or one call of a worker. -/
inductive PipelineStep where
  | call (c : FlowCall)
  | work (w : Worker)

namespace PipelineStep

open Service

def apply : PipelineStep → Service → Service
  | call c, s => (c.run.runOn s).2
  | work w, s => ((ServiceM.processOne w).runOn s).2

def trace : List PipelineStep → Service → List Service
  | [], s => [s]
  | p :: ps, s => s :: trace ps (p.apply s)

def runAll : List PipelineStep → Service → Service
  | [], s => s
  | p :: ps, s => runAll ps (p.apply s)

/-- The steps the pipeline keeps its books through: a post of a range that is no sliver, whose
object fits the cleanup arithmetic with the stored ones; any other call; a call of a worker that
handles cleanup tasks. -/
def Admissible (s : Service) : PipelineStep → Prop
  | call (.postSegment _ seg) => ¬ seg.range.IsSliver ∧ s.FitsWith seg.object
  | call _ => True
  | work w => objectCleanupTask ∈ w.handlers

def Admits : List PipelineStep → Service → Prop
  | [], _ => True
  | p :: ps, s => p.Admissible s ∧ Admits ps (p.apply s)

theorem head?_trace (ps : List PipelineStep) (s : Service) : (trace ps s).head? = some s := by
  cases ps <;> rfl

theorem self_mem_trace (ps : List PipelineStep) (s : Service) : s ∈ trace ps s := by
  cases ps <;> simp [trace]

variable {s : Service}

theorem accounts_apply {p : PipelineStep} (hs : s.Steady) (hf : s.Fits) (hp : p.Admissible s) :
    s.Accounts (p.apply s) := by
  cases p with
  | work w => exact processOne_accounts hp hs hf
  | call c =>
    by_cases hc : ∃ flow seg, c = .postSegment flow seg
    · obtain ⟨flow, seg, rfl⟩ := hc
      exact postSegment_accounts hs hf hp.1 hp.2
    · exact Accounts.of_sweeps (ServiceM.runOn_of_always
        (FlowCall.run_sweeps s.ledger c fun flow seg he => hc ⟨flow, seg, he⟩)
        (Ledger.sweeps_ledger hs hf))

/-- A run of admissible steps from a steady state that fits removes at no step a blob a segment
held, ends steady and fitting, and keeps every object accounted for at any state of it accounted
for at its end. -/
theorem accounts_runAll (ps : List PipelineStep) : ∀ s : Service, s.Steady → s.Fits → Admits ps s →
    (trace ps s).IsChain RemovesUnheld ∧ (runAll ps s).Steady ∧ (runAll ps s).Fits ∧
      ∀ s' ∈ trace ps s, ∀ o, s'.ledger.Accounted o → (runAll ps s).ledger.Accounted o := by
  induction ps with
  | nil => exact fun s hs hf _ => ⟨.singleton s, hs, hf, fun s' hs' _ ho => List.mem_singleton.1 hs' ▸ ho⟩
  | cons p ps ih =>
    intro s hs hf hadm
    have hstep := accounts_apply hs hf hadm.1
    obtain ⟨hchain, hend, hfend, hacc⟩ := ih (p.apply s) hstep.steady hstep.fits hadm.2
    refine ⟨hchain.cons ?_, hend, hfend, ?_⟩
    · rw [head?_trace]
      rintro _ ⟨⟩
      exact hstep.removes
    · rintro s' (_ | ⟨_, hs'⟩) o ho
      · exact hacc (p.apply s) (self_mem_trace ps _) o (hstep.accounted o ho)
      · exact hacc s' hs' o ho

/-- Along every run of admissible steps from a steady state whose objects fit the cleanup
arithmetic, no step removes a blob whose object a stored segment holds; and once no cleanup task
is pending or running, the object of every segment stored at any point of the run that no segment
holds any more is held by no store. -/
theorem cleanup_pipeline_never_strands_objects (ps : List PipelineStep) (s : Service)
    (hs : s.Steady) (hf : s.Fits) (hadm : Admits ps s) :
    (trace ps s).IsChain RemovesUnheld ∧
      ((∀ t ∈ (runAll ps s).queue.tasks, t.kind = objectCleanupTask →
          t.status ≠ .pending ∧ t.status ≠ .running) →
        ∀ s' ∈ trace ps s, ∀ seg ∈ s'.store.segments,
          (∀ seg' ∈ (runAll ps s).store.segments, seg'.object ≠ seg.object) →
          ∀ j, ¬ (runAll ps s).blobs.Holds j seg.object) := by
  obtain ⟨hchain, -, -, hacc⟩ := accounts_runAll ps s hs hf hadm
  refine ⟨hchain, fun hidle s' hs' seg hseg hgone => ?_⟩
  refine (hacc s' hs' seg.object (.inl ⟨seg, hseg, rfl⟩)).unheld hgone fun t ht hto => ?_
  obtain ⟨hpending, hrunning⟩ := hidle t ht hto.1
  exact hto.2.1.elim hpending hrunning

/-- Two posts of one object, a delete of the first range, and a worker that runs the delete
request and then the cleanup it queued, which finds the object still held by the second. -/
theorem delete_then_cleanup_run_keeps_books :
    let first : Segment :=
      { flow := "f", object := "o1", range := ⟨some ⟨⟨0⟩, true⟩, some ⟨⟨1000000000⟩, false⟩⟩ }
    let second : Segment :=
      { flow := "f", object := "o1", range := ⟨some ⟨⟨5000000000⟩, true⟩, some ⟨⟨5000000000⟩, true⟩⟩ }
    let w : Worker :=
      { handlers := [deleteRequestTask, objectCleanupTask], kinds := [deleteRequestTask, objectCleanupTask] }
    let s : Service :=
      { store := { flows := [{ id := "f", container := "c" }] }, blobs := { stores := [("s1", ["o1"])] } }
    let ps : List PipelineStep := [.call (.postSegment "f" first), .call (.postSegment "f" second),
      .call (.deleteSegments "f" (some first.range) "" ""), .work w, .work w]
    s.Steady ∧ s.Fits ∧ Admits ps s ∧ (trace ps s).IsChain RemovesUnheld ∧
      ((∀ t ∈ (runAll ps s).queue.tasks, t.kind = objectCleanupTask →
          t.status ≠ .pending ∧ t.status ≠ .running) →
        ∀ s' ∈ trace ps s, ∀ seg ∈ s'.store.segments,
          (∀ seg' ∈ (runAll ps s).store.segments, seg'.object ≠ seg.object) →
          ∀ j, ¬ (runAll ps s).blobs.Holds j seg.object) := by
  intro first second w s ps
  have hs : s.Steady := ⟨⟨.nil, by simp [s], by simp [s], by simp [s]⟩, rfl, rfl, rfl, ⟨rfl, rfl⟩, rfl, rfl,
    ⟨List.nodup_nil, by simp [s]⟩⟩
  have hf : s.Fits := by
    unfold Service.Fits
    decide +kernel
  have hw : objectCleanupTask ∈ w.handlers := by simp [w]
  have hadm : Admits ps s := by
    simp only [ps, Admits, Admissible]
    refine ⟨⟨by simp [first, TimeRange.IsSliver], ?_⟩, ⟨by simp [second, TimeRange.IsSliver], ?_⟩,
      trivial, hw, hw, trivial⟩
    all_goals
      unfold Service.FitsWith
      decide +kernel
  exact ⟨hs, hf, hadm, cleanup_pipeline_never_strands_objects ps s hs hf hadm⟩

/-- A sliver that ends where a stored segment ends replaces it and hands its object to no
cleanup. After the run above, whose cleanup found the object still held by the second segment,
a post of such a sliver leaves the object in its store, held by no segment and owed by no task. -/
theorem sliver_post_strands_cleaned_object :
    let first : Segment :=
      { flow := "f", object := "o1", range := ⟨some ⟨⟨0⟩, true⟩, some ⟨⟨1000000000⟩, false⟩⟩ }
    let second : Segment :=
      { flow := "f", object := "o1", range := ⟨some ⟨⟨5000000000⟩, true⟩, some ⟨⟨5000000000⟩, true⟩⟩ }
    let sliver : Segment :=
      { flow := "f", object := "o2", range := ⟨some ⟨⟨5000000000⟩, false⟩, some ⟨⟨5000000001⟩, false⟩⟩ }
    let w : Worker :=
      { handlers := [deleteRequestTask, objectCleanupTask], kinds := [deleteRequestTask, objectCleanupTask] }
    let s : Service :=
      { store := { flows := [{ id := "f", container := "c" }] }, blobs := { stores := [("s1", ["o1"])] } }
    let ps : List PipelineStep := [.call (.postSegment "f" first), .call (.postSegment "f" second),
      .call (.deleteSegments "f" (some first.range) "" ""), .work w, .work w, .call (.postSegment "f" sliver)]
    sliver.range.IsSliver ∧
      (∀ t ∈ (runAll ps s).queue.tasks, t.kind = objectCleanupTask →
        t.status ≠ .pending ∧ t.status ≠ .running) ∧
      (∃ s' ∈ trace ps s, ∃ seg ∈ s'.store.segments, seg.object = "o1" ∧
        ∀ seg' ∈ (runAll ps s).store.segments, seg'.object ≠ seg.object) ∧
      (runAll ps s).blobs.Holds "s1" "o1" := by
  intro first second sliver w s ps
  have hend : (∀ t ∈ (runAll ps s).queue.tasks, t.kind = objectCleanupTask →
        t.status ≠ .pending ∧ t.status ≠ .running) ∧
      (runAll ps s).store.segments.map (·.object) = ["o2"] ∧
      (runAll ps s).blobs.stores = [("s1", ["o1"])] := by decide +kernel
  have hfirst : ((call (.postSegment "f" first)).apply s).store.segments.map (·.object) = ["o1"] := by
    decide +kernel
  obtain ⟨seg, hseg, hobj⟩ := List.mem_map.1 (hfirst ▸ List.mem_singleton_self "o1")
  refine ⟨⟨⟨5000000000⟩, rfl, rfl⟩, hend.1, ⟨_, List.mem_cons_of_mem s (self_mem_trace _ _), seg, hseg, hobj,
    fun seg' hseg' he => ?_⟩, ⟨["o1"], by rw [hend.2.2]; simp, by simp⟩⟩
  have ho : seg'.object ∈ ["o2"] := hend.2.1 ▸ List.mem_map_of_mem hseg'
  simp [he, hobj] at ho

end PipelineStep

end MediaTimeline
