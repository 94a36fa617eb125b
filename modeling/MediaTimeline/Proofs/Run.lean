import Mathlib
import MediaTimeline.Service.Basic

/-! Service steps as Hoare triples, and what every step keeps of the state. -/

set_option mvcgen.warning false

namespace MediaTimeline

open Std.Do

@[simp] theorem except_map_eq_ok {ε α β : Type} {f : α → β} {e : Except ε α} {b : β} :
    e.map f = .ok b ↔ ∃ a, e = .ok a ∧ f a = b := by
  cases e <;> simp [Except.map]

@[simp] theorem except_map_eq_error {ε α β : Type} {f : α → β} {e : Except ε α} {x : ε} :
    e.map f = .error x ↔ e = .error x := by
  cases e <;> simp [Except.map]

def Outages.settings (o : Outages) : Outages :=
  { o with deletes := 0, queries := 0, requestPuts := 0 }

/-- What no step of the service changes: its settings, the faults planned for its calls, and
whether the queue takes tasks. -/
def Service.Settled (s s' : Service) : Prop :=
  s'.config = s.config ∧ s'.outages.settings = s.outages.settings ∧ s'.queue.closed = s.queue.closed

def Service.Bookkept (s s' : Service) : Prop :=
  s'.store.segments = s.store.segments ∧ s.Settled s'

namespace Service

@[simp] theorem settled_refl (s : Service) : s.Settled s := ⟨rfl, rfl, rfl⟩

theorem Settled.trans {s₁ s₂ s₃ : Service} (h₁ : s₁.Settled s₂) (h₂ : s₂.Settled s₃) :
    s₁.Settled s₃ :=
  ⟨h₂.1.trans h₁.1, h₂.2.1.trans h₁.2.1, h₂.2.2.trans h₁.2.2⟩

@[simp] theorem bookkept_refl (s : Service) : s.Bookkept s := ⟨rfl, settled_refl s⟩

theorem Bookkept.trans {s₁ s₂ s₃ : Service} (h₁ : s₁.Bookkept s₂) (h₂ : s₂.Bookkept s₃) :
    s₁.Bookkept s₃ :=
  ⟨h₂.1.trans h₁.1, h₁.2.trans h₂.2⟩

end Service

namespace Store

variable {st st' : Store}

theorem byObject_eq_of_segments (h : st.segments = st'.segments) : st.byObject = st'.byObject :=
  (st.mirrored.1.trans (h ▸ st'.mirrored.1.symm)).eq_of_pairwise
    (fun a _ _ _ hab hba => absurd (ObjectKey.before_trans hab hba) (by simp))
    st.mirrored.2 st'.mirrored.2

theorem ext_of_segments (hs : st.segments = st'.segments) (hf : st.flows = st'.flows)
    (hr : st.requests = st'.requests) : st = st' :=
  Store.ext hs (byObject_eq_of_segments hs) hf hr

def filter (st : Store) (p : Segment → Bool) : Store where
  segments := st.segments.filter p
  byObject := st.byObject.filter p
  flows := st.flows
  requests := st.requests
  ordered := st.ordered.filter p
  mirrored := ⟨st.mirrored.1.filter p, st.mirrored.2.filter p⟩

section Filter

variable (p p' : Segment → Bool)

@[simp] theorem segments_filter : (st.filter p).segments = st.segments.filter p := rfl

@[simp] theorem flows_filter : (st.filter p).flows = st.flows := rfl

@[simp] theorem requests_filter : (st.filter p).requests = st.requests := rfl

theorem filter_filter : (st.filter p).filter p' = st.filter fun x => p x && p' x :=
  ext_of_segments (by simp [List.filter_filter, Bool.and_comm]) rfl rfl

theorem filter_eq_self {p : Segment → Bool} (h : ∀ x ∈ st.segments, p x = true) :
    st.filter p = st :=
  ext_of_segments (List.filter_eq_self.2 h) rfl rfl

@[simp] theorem filter_true : st.filter (fun _ => true) = st := filter_eq_self fun _ _ => rfl

theorem dropKey_eq_filter (k : SegmentKey) : st.dropKey k = st.filter (·.key != k) :=
  ext_of_segments rfl rfl rfl

end Filter

@[simp] theorem segments_dropKey (k : SegmentKey) :
    (st.dropKey k).segments = st.segments.filter (·.key != k) := rfl

@[simp] theorem flows_dropKey (k : SegmentKey) : (st.dropKey k).flows = st.flows := rfl

@[simp] theorem requests_dropKey (k : SegmentKey) : (st.dropKey k).requests = st.requests := rfl

@[simp] theorem deleteSegment_eq_ok {flow : String} {stop : Int} {r : Segment} :
    st.deleteSegment flow stop = .ok (r, st') ↔ st.getSegment flow stop = .ok r ∧
      st' = st.dropKey ⟨flow, stop⟩ := by
  unfold deleteSegment
  cases st.getSegment flow stop <;> simp [Except.map, eq_comm]

@[simp] theorem deleteSegment_eq_error {flow : String} {stop : Int} {e : Fault} :
    st.deleteSegment flow stop = .error e ↔ st.getSegment flow stop = .error e := by
  simp [deleteSegment]

theorem segments_of_touchFlow {id : String} {t : Instant} (h : st.touchFlow id t = .ok st') :
    st'.segments = st.segments := by
  simp only [touchFlow, except_map_eq_ok] at h
  obtain ⟨_, -, rfl⟩ := h
  rfl

theorem segments_of_deleteFlow {id : String} (h : st.deleteFlow id = .ok st') :
    st'.segments = st.segments := by
  simp only [deleteFlow, except_map_eq_ok] at h
  obtain ⟨_, -, rfl⟩ := h
  rfl

end Store

namespace ServiceM

variable {α β : Type}

abbrev Post (α : Type) := PostCond α (.except Fault (.except Crash (.arg Service .pure)))

abbrev always (P : Service → Prop) : Post α :=
  post⟨fun _ s => ⌜P s⌝, fun _ s => ⌜P s⌝, fun _ s => ⌜P s⌝⟩

def runOn (m : ServiceM α) (s : Service) : Except Crash (Except Fault α) × Service :=
  (ExceptT.run m).run.run s

theorem runOn_of_triple {m : ServiceM α} {P : Service → Prop}
    {Qa : α → Service → Prop} {Qe : Fault → Service → Prop} {Qc : Crash → Service → Prop}
    (h : ⦃fun s => ⌜P s⌝⦄ m ⦃post⟨fun a s => ⌜Qa a s⌝, fun e s => ⌜Qe e s⌝, fun c s => ⌜Qc c s⌝⟩⦄)
    (s : Service) (hs : P s) :
    match m.runOn s with
    | (.ok (.ok a), s') => Qa a s'
    | (.ok (.error e), s') => Qe e s'
    | (.error c, s') => Qc c s' := by
  have hw := h s hs
  simp only [wp, PredTrans.pushExcept, PredTrans.pushArg] at hw
  unfold runOn
  rcases hr : (ExceptT.run m).run.run s with ⟨(c | (e | a)), s'⟩
  all_goals
    dsimp only [StateT.run, PredTrans.apply, Id.run] at hw hr
    rw [hr] at hw
    exact hw

theorem runOn_of_always {m : ServiceM α} {P : Service → Prop}
    (h : ⦃fun s => ⌜P s⌝⦄ m ⦃always P⦄) {s : Service} (hs : P s) : P (m.runOn s).2 := by
  have hr := runOn_of_triple h s hs
  rcases hm : m.runOn s with ⟨(c | (e | a)), s'⟩
  all_goals rw [hm] at hr; exact hr

theorem always_entails {P P' : Service → Prop} (h : ∀ s, P s → P' s) :
    (always P : Post α) ⊢ₚ always P' :=
  ⟨fun _ s => h s, fun _ s => h s, fun _ s => h s, trivial⟩

/-- A triple relative to the state a step starts in, read from that state: a step that keeps
`I s₀` from every state related to `s₀` leads from a state meeting `P` to one meeting `R`, when
`P s₀` relates `s₀` to itself and every state it relates to meets `R`. -/
theorem always_of_relative {m : ServiceM α} {P R : Service → Prop} {I : Service → Service → Prop}
    (h : ∀ s₀, ⦃fun s => ⌜I s₀ s⌝⦄ m ⦃always (I s₀)⦄) (hI : ∀ s, P s → I s s)
    (hR : ∀ s₀ s, P s₀ → I s₀ s → R s) : ⦃fun s => ⌜P s⌝⦄ m ⦃always R⦄ := by
  intro s hs
  exact (Triple.entails_wp_of_post (h s) (always_entails (hR s · hs))) s (hI s hs)

@[spec] theorem discard_spec (x : ServiceM α) (Q : Post PUnit) :
    ⦃wp⟦x⟧ (fun _ => Q.1 ⟨⟩, Q.2)⦄ Functor.discard x ⦃Q⦄ := by
  have he : Functor.discard x = (fun _ => PUnit.unit) <$> x := rfl
  rw [he]
  exact Triple.of_entails_wp (by simp [WP.map])

@[spec] theorem outage_spec (what : String) (Q : Post α) :
    ⦃Q.2.1 (.outage what)⦄ (outage what : ServiceM α) ⦃Q⦄ := by
  mvcgen [outage]

@[spec] theorem crash_spec (message : String) (Q : Post α) :
    ⦃Q.2.2.1 ⟨message⟩⦄ (crash message : ServiceM α) ⦃Q⦄ := by
  mvcgen [crash]

/-- An `if` followed by more statements comes out of the do-notation wrapped in metadata, which
hides it from `mvcgen`'s case split; this triple hands it back bare, to be split as usual. -/
@[spec] theorem ite_spec (c : Prop) [Decidable c] (t e : ServiceM α) (Q : Post α) :
    ⦃wp⟦ite c t e⟧ Q⦄ ite c t e ⦃Q⦄ := fun _ h => h

/-! Steps that only keep the books: their triples hold from every state that keeps the books to a
fixed `s₀`. -/

section Bookkeeping

open Service

variable (s₀ : Service)

@[spec] theorem now_spec : ⦃fun s => ⌜s₀.Bookkept s⌝⦄ now ⦃always s₀.Bookkept⦄ := by
  mvcgen [now]

@[spec] theorem instant_spec : ⦃fun s => ⌜s₀.Bookkept s⌝⦄ instant ⦃always s₀.Bookkept⦄ := by
  mvcgen [instant]

@[spec] theorem freshId_spec (use : IdUse) :
    ⦃fun s => ⌜s₀.Bookkept s⌝⦄ freshId use ⦃always s₀.Bookkept⦄ := by
  mvcgen [freshId]

theorem TaskQueue.enqueue_closed {q q' : TaskQueue} {now : Instant} {t t' : Task}
    (h : q.enqueue now t = .ok (t', q')) : q'.closed = q.closed := by
  unfold TaskQueue.enqueue at h
  split at h
  · cases h
  · -- the id is settled first, in a queue that is `q` but for its count of ids
    generalize hp : (if t.id.isEmpty = true then _ else _ : String × TaskQueue) = p at h
    obtain ⟨id, q₁⟩ := p
    have hq : q₁.closed = q.closed := by
      split at hp <;> (simp only [Prod.mk.injEq] at hp; obtain ⟨-, rfl⟩ := hp; rfl)
    dsimp only at h
    split at h <;> (simp only [Except.ok.injEq, Prod.mk.injEq] at h; obtain ⟨-, rfl⟩ := h; exact hq)

@[spec] theorem enqueue_spec (t : Task) :
    ⦃fun s => ⌜s₀.Bookkept s⌝⦄ enqueue t ⦃always s₀.Bookkept⦄ := by
  mvcgen [enqueue] with simp_all +zetaDelta [Bookkept, Settled]
  all_goals grind [TaskQueue.enqueue_closed]

end Bookkeeping

@[spec] theorem query_spec (q : SegmentQuery) (s₀ : Service) :
    ⦃fun s => ⌜s = s₀⌝⦄ query q
    ⦃post⟨fun r s => ⌜countCall s₀.outages.queryAfter s₀.outages.queries = false ∧
        r = s₀.store.query q ∧ s.store = s₀.store ∧ s₀.Bookkept s⌝,
      fun e s => ⌜countCall s₀.outages.queryAfter s₀.outages.queries = true ∧
        e = .outage "query unavailable" ∧ s = s₀⌝,
      fun _ _ => ⌜False⌝⟩⦄ := by
  mvcgen [query] with simp_all +zetaDelta [Service.Bookkept, Service.Settled, Outages.settings]

@[spec] theorem deleteSegment_spec (flow : String) (stop : Int) (s₀ : Service) :
    ⦃fun s => ⌜s = s₀⌝⦄ deleteSegment flow stop
    ⦃post⟨fun r s => ⌜s₀.store.getSegment flow stop = .ok r ∧
        s.store.segments = s₀.store.segments.filter (·.key != ⟨flow, stop⟩) ∧ s₀.Settled s⌝,
      fun e s => ⌜(countCall s₀.outages.deleteAfter s₀.outages.deletes ∨
        s₀.store.getSegment flow stop = .error e) ∧ s₀.Bookkept s⌝,
      fun _ _ => ⌜False⌝⟩⦄ := by
  mvcgen [deleteSegment, withStore] with
    simp_all +zetaDelta [Service.Bookkept, Service.Settled, Outages.settings]

@[spec] theorem putSegment_spec (seg : Segment) (s₀ : Service) :
    ⦃fun s => ⌜s = s₀⌝⦄ putSegment seg
    ⦃post⟨fun _ s => ⌜s₀.outages.putSegment = false ∧
        s = { s₀ with store := s₀.store.putSegment seg }⌝,
      fun e s => ⌜s₀.outages.putSegment = true ∧ e = .outage "segment table unavailable" ∧ s = s₀⌝,
      fun _ _ => ⌜False⌝⟩⦄ := by
  mvcgen [putSegment] with simp_all +zetaDelta

end ServiceM

end MediaTimeline
