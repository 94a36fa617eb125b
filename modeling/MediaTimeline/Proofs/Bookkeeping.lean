import Mathlib
import MediaTimeline.Proofs.Run
import MediaTimeline.Service.Deletion

/-! The steps of the service that only keep the books. -/

set_option mvcgen.warning false

namespace MediaTimeline

namespace ServiceM

open Std.Do Service

variable {α : Type}

@[spec] theorem refuse_spec (v : Violation) (Q : Post α) :
    ⦃Q.2.1 (.invalid v)⦄ (refuse v : ServiceM α) ⦃Q⦄ := by
  mvcgen [refuse]

@[spec] theorem step_spec (name : String) (m : ServiceM α) (Q : Post α) :
    ⦃wp⟦m⟧ (Q.1, fun e => Q.2.1 (.within name e), Q.2.2)⦄ step name m ⦃Q⦄ := by
  mvcgen [step]

section Books

variable (s₀ : Service)

@[spec] theorem forgetFlow_spec (id : String) :
    ⦃fun s => ⌜s₀.Bookkept s⌝⦄ forgetFlow id ⦃always s₀.Bookkept⦄ := by
  mvcgen [forgetFlow]

@[spec] theorem loadFlow_spec (id : String) :
    ⦃fun s => ⌜s₀.Bookkept s⌝⦄ loadFlow id ⦃always s₀.Bookkept⦄ := by
  mvcgen [loadFlow]

@[spec] theorem cachedFlow_spec (id : String) :
    ⦃fun s => ⌜s₀.Bookkept s⌝⦄ cachedFlow id ⦃always s₀.Bookkept⦄ := by
  mvcgen [cachedFlow] with simp_all +zetaDelta [Bookkept, Settled]

@[spec] theorem writableFlow_spec (id : String) :
    ⦃fun s => ⌜s₀.Bookkept s⌝⦄ writableFlow id ⦃always s₀.Bookkept⦄ := by
  mvcgen [writableFlow] with simp_all +zetaDelta [Bookkept, Settled]

@[spec] theorem touchFlow_spec (id : String) :
    ⦃fun s => ⌜s₀.Bookkept s⌝⦄ touchFlow id ⦃always s₀.Bookkept⦄ := by
  mvcgen [touchFlow, withStore] with simp_all +zetaDelta [Bookkept, Settled]
  grind [Store.segments_of_touchFlow]

@[spec] theorem touch_spec (flow : String) :
    ⦃fun s => ⌜s₀.Bookkept s⌝⦄ touch flow ⦃always s₀.Bookkept⦄ := by
  mvcgen [touch] with simp_all +zetaDelta [Bookkept, Settled]

@[spec] theorem putRequest_spec (r : DeleteRequest) :
    ⦃fun s => ⌜s₀.Bookkept s⌝⦄ putRequest r ⦃always s₀.Bookkept⦄ := by
  mvcgen [putRequest]

@[spec] theorem emit_spec (name flow range : String) (count : Int) :
    ⦃fun s => ⌜s₀.Bookkept s⌝⦄ emit name flow range count ⦃always s₀.Bookkept⦄ := by
  mvcgen [emit] with simp_all +zetaDelta [Bookkept, Settled]

@[spec] theorem segmentsAdded_spec (flow : String) (r : TimeRange) (count : Int) :
    ⦃fun s => ⌜s₀.Bookkept s⌝⦄ segmentsAdded flow r count ⦃always s₀.Bookkept⦄ := by
  mvcgen [segmentsAdded]

@[spec] theorem segmentsDeleted_spec (flow : String) (r : TimeRange) (count : Int) :
    ⦃fun s => ⌜s₀.Bookkept s⌝⦄ segmentsDeleted flow r count ⦃always s₀.Bookkept⦄ := by
  mvcgen [segmentsDeleted]

@[spec] theorem flowDeleted_spec (flow : String) :
    ⦃fun s => ⌜s₀.Bookkept s⌝⦄ flowDeleted flow ⦃always s₀.Bookkept⦄ := by
  mvcgen [flowDeleted]

@[spec] theorem noteSegmentsDeleted_spec (flow : String) (r : TimeRange) (count : Int) :
    ⦃fun s => ⌜s₀.Bookkept s⌝⦄ noteSegmentsDeleted flow r count ⦃always s₀.Bookkept⦄ := by
  mvcgen [noteSegmentsDeleted] with simp_all +zetaDelta [Bookkept, Settled]

@[spec] theorem noteFlowDeleted_spec (flow : String) :
    ⦃fun s => ⌜s₀.Bookkept s⌝⦄ noteFlowDeleted flow ⦃always s₀.Bookkept⦄ := by
  mvcgen [noteFlowDeleted] with simp_all +zetaDelta [Bookkept, Settled]

@[spec] theorem scheduleContinuation_spec (r : DeleteRequest) :
    ⦃fun s => ⌜s₀.Bookkept s⌝⦄ scheduleContinuation r ⦃always s₀.Bookkept⦄ := by
  mvcgen [scheduleContinuation]

@[spec] theorem dispatch_go_spec (cfg : ServiceConfig) (total : Nat) (bs : List (List String))
    (i : Nat) : ⦃fun s => ⌜s₀.Bookkept s⌝⦄ dispatch.go cfg total bs i ⦃always s₀.Bookkept⦄ := by
  induction bs generalizing i with
  | nil => mvcgen [dispatch.go]
  | cons b rest ih => mvcgen [dispatch.go, ih] with simp_all +zetaDelta [Bookkept, Settled]

@[spec] theorem dispatch_spec (ids : List String) :
    ⦃fun s => ⌜s₀.Bookkept s⌝⦄ dispatch ids ⦃always s₀.Bookkept⦄ := by
  mvcgen [dispatch]

@[spec] theorem submitRequest_spec (flow : String) (r : TimeRange) (deleteFlow : Bool)
    (createdBy : String) :
    ⦃fun s => ⌜s₀.Bookkept s⌝⦄ submitRequest flow r deleteFlow createdBy ⦃always s₀.Bookkept⦄ := by
  mvcgen [submitRequest] with simp_all +zetaDelta [Bookkept, Settled]

@[spec] theorem exactEnd_spec (flow : String) (bound : Int) :
    ⦃fun s => ⌜s₀.Bookkept s⌝⦄ exactEnd flow bound ⦃always s₀.Bookkept⦄ := by
  mvcgen [exactEnd] with simp_all +zetaDelta [Bookkept, Settled, Outages.settings]

@[spec] theorem plan_spec (flow : String) (p : ListParams) :
    ⦃fun s => ⌜s₀.Bookkept s⌝⦄ plan flow p ⦃always s₀.Bookkept⦄ := by
  mvcgen [plan] with simp_all +zetaDelta [Bookkept, Settled]

@[spec] theorem hasSegments_spec (flow : String) (r : TimeRange) :
    ⦃fun s => ⌜s₀.Bookkept s⌝⦄ hasSegments flow r ⦃always s₀.Bookkept⦄ := by
  mvcgen [hasSegments] with simp_all +zetaDelta [Bookkept, Settled, Outages.settings]

end Books

end ServiceM

end MediaTimeline
