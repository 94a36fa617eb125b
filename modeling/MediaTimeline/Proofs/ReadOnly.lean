import Mathlib
import MediaTimeline.Proofs.IndexInvariant
import MediaTimeline.Proofs.Submission

/-! Read-only flows. The service refuses to add or remove a segment of a read-only flow, and its
steps on other flows leave that flow's segments where they are. -/

set_option mvcgen.warning false

namespace MediaTimeline

def KeyHeld (segs : List Segment) (flow : String) (stop : Int) : Prop :=
  ∃ seg ∈ segs, seg.key = ⟨flow, stop⟩

namespace Service

def KeysKept (flow : String) (s₀ s : Service) : Prop :=
  ∀ stop, KeyHeld s.store.segments flow stop ↔ KeyHeld s₀.store.segments flow stop

def ReadOnly (flow : String) (s : Service) : Prop :=
  ∃ f, s.store.getFlow flow = .ok f ∧ f.readOnly = true

theorem readOnly_of_flag {flow : String} {s : Service}
    (h : (match s.store.getFlow flow with | .ok f => f.readOnly | .error _ => false) = true) :
    s.ReadOnly flow := by
  cases hf : s.store.getFlow flow with
  | error e =>
    rw [hf] at h
    cases h
  | ok f =>
    rw [hf] at h
    exact ⟨f, hf, h⟩

/-- A step from `s` refused for `flow`: it fails, as the flow being read-only when the flow table
is up, and leaves the store, the queue and the accepted tasks as they were. -/
def Refused {α : Type} (flow : String) (s : Service) (r : Except Crash (Except Fault α) × Service) :
    Prop :=
  ∃ e, r.1 = .ok (.error e) ∧ s.Quiet r.2 ∧ (s.outages.getFlow = false → e = .readOnly flow)

section Refused

variable {α β : Type} {m : ServiceM α} {s : Service} {flow : String}

theorem Refused.bind (h : s.Refused flow (m.runOn s)) (k : α → ServiceM β) :
    s.Refused flow ((m >>= k).runOn s) := by
  obtain ⟨e, he, hq, hup⟩ := h
  rcases hrun : m.runOn s with ⟨r, s'⟩
  rw [hrun] at he hq
  subst he
  exact ⟨e, by simp [ServiceM.runOn_bind, hrun], by simpa [ServiceM.runOn_bind, hrun] using hq, hup⟩

theorem Refused.discard (h : s.Refused flow (m.runOn s)) :
    s.Refused flow ((Functor.discard m).runOn s) := by
  obtain ⟨e, he, hq, hup⟩ := h
  rcases hrun : m.runOn s with ⟨r, s'⟩
  rw [hrun] at he hq
  subst he
  exact ⟨e, by simp [ServiceM.runOn_discard, hrun], by simpa [ServiceM.runOn_discard, hrun] using hq,
    hup⟩

end Refused

end Service

section KeyHeld

variable {l : List Segment} {flow : String} {stop : Int}

@[simp] theorem keyHeld_placeSegment {seg : Segment} (h : seg.flow ≠ flow) :
    KeyHeld (Store.placeSegment seg l) flow stop ↔ KeyHeld l flow stop := by
  constructor
  · rintro ⟨x, hx, hk⟩
    rcases Store.mem_of_mem_placeSegment hx with rfl | hx
    · exact absurd (congrArg SegmentKey.flow hk) h
    · exact ⟨x, hx, hk⟩
  · rintro ⟨x, hx, hk⟩
    refine ⟨x, Store.mem_placeSegment_of_mem hx fun he => h ?_, hk⟩
    simpa [Segment.key] using congrArg SegmentKey.flow (he.symm.trans hk)

@[simp] theorem keyHeld_filter_key {other : String} {k : Int} (h : other ≠ flow) :
    KeyHeld (l.filter (·.key != ⟨other, k⟩)) flow stop ↔ KeyHeld l flow stop := by
  constructor
  · rintro ⟨x, hx, hk⟩
    exact ⟨x, List.mem_of_mem_filter hx, hk⟩
  · rintro ⟨x, hx, hk⟩
    refine ⟨x, List.mem_filter.2 ⟨hx, ?_⟩, hk⟩
    simp [hk, h.symm]

theorem Store.flow_ne_of_writable {st : Store} {a b : String} {f g : Flow}
    (ha : st.getFlow a = .ok f) (hf : f.readOnly = false) (hb : st.getFlow b = .ok g)
    (hg : g.readOnly = true) : a ≠ b := by
  rintro rfl
  rw [ha, Except.ok.injEq] at hb
  subst hb
  simp_all

theorem keyHeld_map {g : Segment → Segment} (hg : ∀ x, (g x).key = x.key) :
    KeyHeld (l.map g) flow stop ↔ KeyHeld l flow stop := by
  simp [KeyHeld, hg]

theorem keyHeld_appendStorageIds {st st' : Store} {other : String} {k : Int} {ids : List String}
    (h : st.appendStorageIds other k ids = .ok st') :
    KeyHeld st'.segments flow stop ↔ KeyHeld st.segments flow stop := by
  rw [Store.appendStorageIds_eq_ok h]
  exact keyHeld_map fun x => by split <;> rfl

end KeyHeld

namespace Service

variable {flow : String} {s₁ s₂ s₃ : Service}

@[simp] theorem keysKept_refl (s : Service) : s.KeysKept flow s := fun _ => Iff.rfl

theorem KeysKept.of_bookkept (h : s₁.Bookkept s₂) : s₁.KeysKept flow s₂ := by
  simp [KeysKept, h.1]

theorem KeysKept.trans (h₁ : s₁.KeysKept flow s₂) (h₂ : s₂.KeysKept flow s₃) :
    s₁.KeysKept flow s₃ := fun stop => (h₂ stop).trans (h₁ stop)

end Service

namespace ServiceM

open Std.Do Service

theorem state_runOn_discard {α : Type} (m : ServiceM α) (s : Service) :
    ((Functor.discard m).runOn s).2 = (m.runOn s).2 := by
  rw [runOn_discard]
  rcases m.runOn s with ⟨(c | (e | a)), s'⟩ <;> rfl

theorem keysKept_runOn {α : Type} {flow : String} {m : ServiceM α} {P : Service → Prop}
    {s : Service}
    (h : ⦃fun t => ⌜P t⌝⦄ m ⦃always (s.KeysKept flow)⦄) (hs : P s) :
    s.KeysKept flow (m.runOn s).2 :=
  runOn_ends (E := fun r => s.KeysKept flow r.2) h s hs

variable (s₀ : Service) (flow : String)

/-! Steps on the segments of another flow keep the keys of `flow`. -/

theorem insert_keys (seg : Segment) :
    ⦃fun s => ⌜s₀.KeysKept flow s ∧ seg.flow ≠ flow⌝⦄ insert seg ⦃always (s₀.KeysKept flow)⦄ := by
  mvcgen [insert, -insert_spec] with simp_all +zetaDelta [KeysKept, Bookkept]
  obtain ⟨hflow, -⟩ := Segment.withKeys_eq_ok ‹seg.withKeys = _›
  simp_all [Store.putSegment]

theorem remove_keys (other : String) (stop : Int) :
    ⦃fun s => ⌜s₀.KeysKept flow s ∧ other ≠ flow⌝⦄ remove other stop
    ⦃always (s₀.KeysKept flow)⦄ := by
  mvcgen [remove, -remove_spec] with simp_all +zetaDelta [KeysKept, Bookkept]

theorem removeContained_keys (other : String) (r : TimeRange) (page : List Segment) (n : Nat)
    (covered : TimeRange) :
    ⦃fun s => ⌜s₀.KeysKept flow s ∧ other ≠ flow⌝⦄ removeContained other r page n covered
    ⦃always (s₀.KeysKept flow)⦄ := by
  have hremove := remove_keys s₀ flow
  induction page generalizing n covered with
  | nil => (mvcgen [removeContained, -removeContained_spec] with simp_all)
  | cons t rest ih =>
    mvcgen [removeContained, -removeContained_spec, ih, hremove, -remove_spec] with simp_all

theorem removeObjectPages_keys (other object : String) (r : TimeRange) (fuel : Nat)
    (cursor : TimeRange) (n : Nat) (covered : TimeRange) :
    ⦃fun s => ⌜s₀.KeysKept flow s ∧ other ≠ flow⌝⦄
    removeObjectPages other object r fuel cursor n covered
    ⦃always (s₀.KeysKept flow)⦄ := by
  have hpage := removeContained_keys s₀ flow other r
  induction fuel generalizing cursor n covered with
  | zero => (mvcgen [removeObjectPages, -removeObjectPages_spec] with simp_all)
  | succ fuel ih =>
    mvcgen [removeObjectPages, -removeObjectPages_spec, ih, hpage, -removeContained_spec] with
      simp_all +zetaDelta [KeysKept, Bookkept]

theorem deleteObjectSegments_keys (other object : String) (r : TimeRange) :
    ⦃fun s => ⌜s₀.KeysKept flow s ∧ other ≠ flow⌝⦄ deleteObjectSegments other object r
    ⦃always (s₀.KeysKept flow)⦄ := by
  have hpages := removeObjectPages_keys s₀ flow other object r
  mvcgen [deleteObjectSegments, -deleteObjectSegments_spec, hpages, -removeObjectPages_spec] with
    simp_all +zetaDelta [KeysKept, Bookkept]

/-! Steps that write no segment keep the keys of every flow. -/

theorem putFlow_keys (f : Flow) :
    ⦃fun s => ⌜s₀.KeysKept flow s⌝⦄ putFlow f ⦃always (s₀.KeysKept flow)⦄ := by
  mvcgen [putFlow] with simp_all +zetaDelta [KeysKept, Bookkept, Store.putFlow]

theorem deleteFlow_keys (other createdBy : String) :
    ⦃fun s => ⌜s₀.KeysKept flow s⌝⦄ deleteFlow other createdBy ⦃always (s₀.KeysKept flow)⦄ := by
  mvcgen [deleteFlow, withStore] with simp_all +zetaDelta [KeysKept, Bookkept]

theorem appendStorageIds_keys (other : String) (r : TimeRange) (ids : List String) :
    ⦃fun s => ⌜s₀.KeysKept flow s⌝⦄ appendStorageIds other r ids ⦃always (s₀.KeysKept flow)⦄ := by
  mvcgen [appendStorageIds, withStore] with simp_all +zetaDelta [KeysKept, Bookkept]
  intro stop
  rw [keyHeld_appendStorageIds ‹_›]
  simp_all

theorem listSegments_keys (other : String) (p : ListParams) :
    ⦃fun s => ⌜s₀.KeysKept flow s⌝⦄ listSegments other p ⦃always (s₀.KeysKept flow)⦄ := by
  mvcgen [listSegments, list] with simp_all +zetaDelta [KeysKept, Bookkept]

theorem flowTimerange_keys (other : String) :
    ⦃fun s => ⌜s₀.KeysKept flow s⌝⦄ flowTimerange other ⦃always (s₀.KeysKept flow)⦄ := by
  mvcgen [flowTimerange, flowRange, first?] with simp_all +zetaDelta [KeysKept, Bookkept]

/-! A step on `flow` itself goes no further than the check that the flow takes changes. -/

theorem writableFlow_writable (id : String) :
    ⦃fun s => ⌜s = s₀ ∧ s.FlowsCached⌝⦄ writableFlow id
    ⦃post⟨fun f s => ⌜s₀.store.getFlow id = .ok f ∧ f.readOnly = false ∧ s₀.Quiet s⌝,
      fun _ s => ⌜s₀.Quiet s⌝, fun _ _ => ⌜False⌝⟩⦄ := by
  refine triple_of_runOn fun s hs => ?_
  obtain ⟨rfl, hc⟩ := hs
  have hread := (runOn_writableFlow_of_cached hc id).1
  have hquiet := runOn_of_triple (writableFlow_calm s id) s ⟨rfl, rfl, rfl, rfl, rfl⟩
  rcases hrun : (writableFlow id).runOn s with ⟨(c | (e | f)), s'⟩
  all_goals rw [hrun] at hquiet
  · exact hquiet
  · exact hquiet
  · exact ⟨(hread f (by rw [hrun])).1, (hread f (by rw [hrun])).2, hquiet⟩

theorem postSegment_keys (other : String) (seg : Segment) :
    ⦃fun s => ⌜s = s₀ ∧ s.FlowsCached ∧ s.ReadOnly flow⌝⦄ postSegment other seg
    ⦃always (s₀.KeysKept flow)⦄ := by
  intro s hs
  obtain ⟨rfl, hc, f, hf, hro⟩ := hs
  have hinsert := insert_keys s flow
  mvcgen [postSegment, writableFlow_writable, -writableFlow_spec, hinsert, -insert_spec] with
    simp_all +zetaDelta [KeysKept, Bookkept, Quiet]
  obtain ⟨hw, hwr, -⟩ := ‹s.store.getFlow other = _ ∧ _›
  exact Store.flow_ne_of_writable hw hwr hf hro

theorem deleteSegments_keys (other : String) (range : Option TimeRange)
    (object createdBy : String) :
    ⦃fun s => ⌜s = s₀ ∧ s.FlowsCached ∧ s.ReadOnly flow⌝⦄
    deleteSegments other range object createdBy
    ⦃always (s₀.KeysKept flow)⦄ := by
  intro s hs
  obtain ⟨rfl, hc, f, hf, hro⟩ := hs
  have hobject := deleteObjectSegments_keys s flow
  mvcgen [deleteSegments, -deleteSegments_spec, writableFlow_writable, -writableFlow_spec, hobject,
    -deleteObjectSegments_spec] with simp_all +zetaDelta [KeysKept, Bookkept, Quiet]
  obtain ⟨hw, hwr, -⟩ := ‹s.store.getFlow other = _ ∧ _›
  exact Store.flow_ne_of_writable hw hwr hf hro

/-! A step that writes `flow`'s segments stops at that check. -/

variable {s : Service}

theorem refused_writableFlow (hc : s.FlowsCached) (hro : s.ReadOnly flow) :
    s.Refused flow ((writableFlow flow).runOn s) := by
  obtain ⟨g, hg, hgro⟩ := hro
  have hquiet := runOn_of_triple (writableFlow_calm s flow) s ⟨rfl, rfl, rfl, rfl, rfl⟩
  have hread := runOn_writableFlow_of_cached hc flow
  rcases hrun : (writableFlow flow).runOn s with ⟨(c | (e | f)), s'⟩
  all_goals rw [hrun] at hquiet hread
  · exact hquiet.elim
  · refine ⟨e, rfl, hquiet, fun hup => ?_⟩
    have he := hread.2 hup
    simpa [Store.writableFlow, hg, bind, Except.bind, hgro] using he
  · -- the check passes only a flow the table holds writable
    obtain ⟨hf, hfro⟩ := hread.1 f rfl
    rw [hg, Except.ok.injEq] at hf
    subst hf
    simp_all

end ServiceM

namespace FlowCall

open Std.Do Service ServiceM

def byService : FlowCall → Bool
  | runRequest _ _ => false
  | _ => true

def writesTo (flow : String) : FlowCall → Bool
  | postSegment other _ | deleteSegments other _ _ _ | deleteFlow other _ => other == flow
  | _ => false

theorem run_refused {flow : String} (c : FlowCall) (hw : c.writesTo flow = true) {s : Service}
    (hcached : s.FlowsCached) (hro : s.ReadOnly flow) : s.Refused flow (c.run.runOn s) := by
  have hcheck := refused_writableFlow flow hcached hro
  cases c with
  | postSegment other seg =>
    obtain rfl : other = flow := by simpa [writesTo] using hw
    exact (hcheck.bind _).discard
  | deleteSegments other range object createdBy =>
    obtain rfl : other = flow := by simpa [writesTo] using hw
    exact (hcheck.discard.bind _).discard
  | deleteFlow other createdBy =>
    obtain rfl : other = flow := by simpa [writesTo] using hw
    exact (hcheck.discard.bind _).discard
  | _ => cases hw

/-- A call the service answers, made while the table holds `flow` read-only and the cache agrees
with the table, neither adds nor removes a segment of `flow`, whatever it answers. -/
theorem run_keys (flow : String) (c : FlowCall) (hc : c.byService = true) {s : Service}
    (hcached : s.FlowsCached) (hro : s.ReadOnly flow) : s.KeysKept flow (c.run.runOn s).2 := by
  cases c with
  | putFlow f =>
    rw [run, state_runOn_discard]
    exact keysKept_runOn (putFlow_keys s flow f) (keysKept_refl s)
  | getFlow id =>
    rw [run, state_runOn_discard]
    exact KeysKept.of_bookkept (runOn_of_always (cachedFlow_spec s id) (bookkept_refl s))
  | postSegment other seg =>
    rw [run, state_runOn_discard]
    exact keysKept_runOn (postSegment_keys s flow other seg) ⟨rfl, hcached, hro⟩
  | listSegments other p =>
    rw [run, state_runOn_discard]
    exact keysKept_runOn (listSegments_keys s flow other p) (keysKept_refl s)
  | flowTimerange other =>
    rw [run, state_runOn_discard]
    exact keysKept_runOn (flowTimerange_keys s flow other) (keysKept_refl s)
  | appendStorageIds other r ids =>
    exact keysKept_runOn (appendStorageIds_keys s flow other r ids) (keysKept_refl s)
  | deleteSegments other range object createdBy =>
    rw [run, state_runOn_discard]
    exact keysKept_runOn (deleteSegments_keys s flow other range object createdBy)
      ⟨rfl, hcached, hro⟩
  | deleteFlow other createdBy =>
    rw [run, state_runOn_discard]
    exact keysKept_runOn (deleteFlow_keys s flow other createdBy) (keysKept_refl s)
  | runRequest req timeLeft => cases hc

end FlowCall

/-- Read-only flows keep their segments against the service: along every run of the service's
calls and of deletion engine runs, from a service whose flow cache is empty, a call the service
answers itself, made while the table holds a flow read-only, neither adds nor removes a segment of
that flow; one that would write them is refused and accepts no request and no task. -/
theorem read_only_flow_keeps_its_segments (pre : List FlowCall) (c : FlowCall)
    (hc : c.byService = true) (s₀ : Service) (hs₀ : s₀.flows.entries = []) (flow : String)
    (hro : (FlowCall.runAll pre s₀).ReadOnly flow) :
    let s := FlowCall.runAll pre s₀
    s.KeysKept flow (c.run.runOn s).2 ∧ (c.writesTo flow = true → s.Refused flow (c.run.runOn s)) := by
  intro s
  have h₀ : s₀.FlowsCached := fun k e he => by
    rw [hs₀] at he
    cases he
  have hcached := FlowCall.flowsCached_runAll pre h₀
  exact ⟨FlowCall.run_keys flow c hc hcached hro, fun hw => c.run_refused hw hcached hro⟩

/-- A flow holding a segment, then stored read-only: deleting its segments is refused as
read-only, and no delete request is stored. -/
theorem read_only_flow_refuses_delete :
    let seg : Segment :=
      { flow := "f", object := "o1", range := ⟨some ⟨⟨0⟩, true⟩, some ⟨⟨1000000000⟩, false⟩⟩ }
    let pre := [FlowCall.putFlow { id := "f", container := "c" }, .postSegment "f" seg,
      .putFlow { id := "f", container := "c", readOnly := true }]
    let c := FlowCall.deleteSegments "f" none "" ""
    let s := FlowCall.runAll pre {}
    c.byService = true ∧ s.ReadOnly "f" ∧ s.store.segments.length = 1 ∧
      s.KeysKept "f" (c.run.runOn s).2 ∧ (c.run.runOn s).1 = .ok (.error (.readOnly "f")) ∧
      (c.run.runOn s).2.store.requests = [] := by
  intro seg pre c s
  have hc : c.byService = true := rfl
  have hro : s.ReadOnly "f" := Service.readOnly_of_flag (by decide +kernel)
  have hstate : s.store.segments.length = 1 ∧ s.store.requests = [] ∧ s.outages.getFlow = false := by
    decide +kernel
  obtain ⟨hlen, hreq, hup⟩ := hstate
  obtain ⟨hkeys, hrefused⟩ := read_only_flow_keeps_its_segments pre c hc {} rfl "f" hro
  obtain ⟨e, he, hquiet, hread⟩ := hrefused rfl
  rw [← hread hup]
  exact ⟨hc, hro, hlen, hkeys, he, hquiet.1 ▸ hreq⟩

/-- The deletion engine does not look at the flag: a request accepted while the flow took
changes still removes the flow's segment after the flow is stored read-only. -/
theorem engine_deletes_from_read_only_flow :
    let s := FlowCall.runAll [.putFlow { id := "f", container := "c" },
      .postSegment "f"
        { flow := "f", object := "o1", range := ⟨some ⟨⟨0⟩, true⟩, some ⟨⟨1000000000⟩, false⟩⟩ },
      .deleteSegments "f" none "" "", .putFlow { id := "f", container := "c", readOnly := true }] {}
    s.ReadOnly "f" ∧ s.store.segments.length = 1 ∧ ∃ req, s.store.requests = [req] ∧
      ((FlowCall.runRequest req fun _ => 1000000000).run.runOn s).2.store.segments = [] := by
  intro s
  have hflag :
      (match s.store.getFlow "f" with | .ok f => f.readOnly | .error _ => false) = true := by
    decide +kernel
  have hleft : s.store.requests.length = 1 ∧ s.store.segments.length = 1 ∧
      (s.store.requests.head?.map fun req =>
        ((FlowCall.runRequest req fun _ => 1000000000).run.runOn s).2.store.segments.isEmpty) =
        some true := by
    decide +kernel
  refine ⟨Service.readOnly_of_flag hflag, hleft.2.1, ?_⟩
  obtain ⟨req, hreq⟩ := List.length_eq_one_iff.1 hleft.1
  have hrun := hleft.2.2
  rw [hreq] at hrun
  simp only [List.head?_cons, Option.map_some, Option.some.injEq, List.isEmpty_iff] at hrun
  exact ⟨req, hreq, hrun⟩

end MediaTimeline
