import Mathlib
import MediaTimeline.Proofs.Bookkeeping
import MediaTimeline.Deletion.Engine

/-! Deleting segments only drops segments. -/

set_option mvcgen.warning false

namespace MediaTimeline

def Service.Within (L : List Segment) (s : Service) : Prop :=
  s.store.segments.Sublist L

namespace ServiceM

open Std.Do Service

variable (L : List Segment)

@[spec] theorem remove_spec (flow : String) (stop : Int) :
    ⦃fun s => ⌜s.Within L⌝⦄ remove flow stop ⦃always (Within L)⦄ := by
  mvcgen [remove] with simp_all +zetaDelta [Within, Bookkept]
  exact fun _ _ _ => List.filter_sublist.trans ‹_›

@[spec] theorem removeContained_spec (flow : String) (r : TimeRange) (page : List Segment)
    (n : Nat) (covered : TimeRange) :
    ⦃fun s => ⌜s.Within L⌝⦄ removeContained flow r page n covered ⦃always (Within L)⦄ := by
  induction page generalizing n covered with
  | nil => mvcgen [removeContained]
  | cons t rest ih => mvcgen [removeContained, ih]

@[spec] theorem removeObjectPages_spec (flow object : String) (r : TimeRange) (fuel : Nat)
    (cursor : TimeRange) (n : Nat) (covered : TimeRange) :
    ⦃fun s => ⌜s.Within L⌝⦄ removeObjectPages flow object r fuel cursor n covered
    ⦃always (Within L)⦄ := by
  induction fuel generalizing cursor n covered with
  | zero => mvcgen [removeObjectPages]
  | succ fuel ih => mvcgen [removeObjectPages, ih] with simp_all +zetaDelta [Within, Bookkept]

@[spec] theorem deleteObjectSegments_spec (flow object : String) (r : TimeRange) :
    ⦃fun s => ⌜s.Within L⌝⦄ deleteObjectSegments flow object r ⦃always (Within L)⦄ := by
  mvcgen [deleteObjectSegments] with simp_all +zetaDelta [Within, Bookkept]

@[spec] theorem deleteSegments_spec (flow : String) (range : Option TimeRange)
    (object createdBy : String) :
    ⦃fun s => ⌜s.Within L⌝⦄ deleteSegments flow range object createdBy ⦃always (Within L)⦄ := by
  mvcgen [deleteSegments] with simp_all +zetaDelta [Within, Bookkept]

@[spec] theorem removeBatch_spec (flow : String) (items : List Segment) (n : Nat)
    (covered : TimeRange) (objs : List String) :
    ⦃fun s => ⌜s.Within L⌝⦄ removeBatch flow items n covered objs ⦃always (Within L)⦄ := by
  induction items generalizing n covered objs with
  | nil => mvcgen [removeBatch]
  | cons t rest ih => mvcgen [removeBatch, ih]

@[spec] theorem runBatch_spec (flow : String) (toDelete cursor : TimeRange) :
    ⦃fun s => ⌜s.Within L⌝⦄ runBatch flow toDelete cursor ⦃always (Within L)⦄ := by
  mvcgen [runBatch] with simp_all +zetaDelta [Within, Bookkept]

@[spec] theorem runBatches_spec (req : DeleteRequest) (timeLeft : Nat → Int) (fuel : Nat)
    (cursor : TimeRange) (r : RunReport) :
    ⦃fun s => ⌜s.Within L⌝⦄ runBatches req timeLeft fuel cursor r ⦃always (Within L)⦄ := by
  induction fuel generalizing cursor r with
  | zero => mvcgen [runBatches]
  | succ fuel ih => mvcgen [runBatches, ih]

@[spec] theorem runRequest_spec (req : DeleteRequest) (timeLeft : Nat → Int) :
    ⦃fun s => ⌜s.Within L⌝⦄ runRequest req timeLeft ⦃always (Within L)⦄ := by
  mvcgen [runRequest, withStore] with simp_all +zetaDelta [Within, Bookkept]
  all_goals
    intros
    simp_all [Store.segments_of_deleteFlow ‹_›]

end ServiceM

end MediaTimeline
