import Mathlib
import MediaTimeline.Proofs.SqlQuery
import MediaTimeline.Proofs.StatementText

/-! The statements the SQL store sends. -/

namespace MediaTimeline.Sql

def LogEntry.Rewritten (d : Dialect) : LogEntry → Prop
  | .exec text args =>
    ∃ sql, WrittenInOrder sql args.length ∧ text = collapseBlanks (d.rewritePlaceholders sql)
  | .query text args =>
    ∃ sql, WrittenInOrder sql args.length ∧ text = collapseBlanks (d.rewritePlaceholders sql)
  | .event _ => True

/-- A step of the store only adds to the connection's log, and every statement it adds was written
in order and rewritten for the dialect. -/
def SendsInOrder {α : Type} (d : Dialect) (m : StoreM α) : Prop :=
  ∀ c, ∃ new, (m.run.run c).2.log = c.log ++ new ∧ ∀ e ∈ new, e.Rewritten d

theorem run_tryCatch {α : Type} (m : StoreM α) (h : Fault → StoreM α) (c : Connection) :
    (tryCatch m h).run.run c = match m.run.run c with
      | (.ok a, c') => (.ok a, c')
      | (.error e, c') => (h e).run.run c' := by
  simp only [ExceptT.run_tryCatch, StateT.run_bind]
  rcases m.run.run c with ⟨_ | a, c'⟩ <;> rfl

theorem state_onServer {α : Type} (m : ConnM α) (c : Connection) :
    ((onServer m).run.run c).2 = (m.run.run c).2 := by
  simp only [onServer, ExceptT.run_mk, StateT.run_bind]
  rfl

/-! ### What the connection logs -/

theorem log_exec (sql : String) (args : List SqlValue) (c : Connection) :
    ((exec sql args).run.run c).2.log = c.log ++ [.exec (collapseBlanks sql) args] := by
  obtain ⟨script, log, fb, fc, fr, fp, now⟩ := c
  cases script with
  | nil => rfl
  | cons r rest =>
    obtain ⟨failure, affected, affectedProblem, rows, rowProblem⟩ := r
    cases failure <;> rfl

theorem log_query (sql : String) (args : List SqlValue) (c : Connection) :
    ((query sql args).run.run c).2.log = c.log ++ [.query (collapseBlanks sql) args] := by
  obtain ⟨script, log, fb, fc, fr, fp, now⟩ := c
  cases script with
  | nil => rfl
  | cons r rest =>
    obtain ⟨failure, affected, affectedProblem, rows, rowProblem⟩ := r
    cases failure <;> rfl

theorem extended_twice {d : Dialect} {log log' log'' new new' : List LogEntry}
    (h : log' = log ++ new) (hnew : ∀ e ∈ new, e.Rewritten d)
    (h' : log'' = log' ++ new') (hnew' : ∀ e ∈ new', e.Rewritten d) :
    ∃ all, log'' = log ++ all ∧ ∀ e ∈ all, e.Rewritten d :=
  ⟨new ++ new', by rw [h', h, List.append_assoc], fun e he =>
    (List.mem_append.1 he).elim (hnew e) (hnew' e)⟩

namespace SendsInOrder

variable {d : Dialect} {α β : Type}

theorem of_log_eq {m : StoreM α} (h : ∀ c, (m.run.run c).2.log = c.log) : SendsInOrder d m :=
  fun c => ⟨[], by rw [h, List.append_nil], fun _ he => absurd he List.not_mem_nil⟩

theorem pure (a : α) : SendsInOrder d (Pure.pure a : StoreM α) := of_log_eq fun _ => rfl

theorem throw (e : Fault) : SendsInOrder d (MonadExcept.throw e : StoreM α) := of_log_eq fun _ => rfl

theorem bind {m : StoreM α} {f : α → StoreM β} (hm : SendsInOrder d m)
    (hf : ∀ a, SendsInOrder d (f a)) : SendsInOrder d (m >>= f) := by
  intro c
  obtain ⟨new, hlog, hnew⟩ := hm c
  rw [Sql.run_bind]
  rcases hrun : m.run.run c with ⟨_ | a, c'⟩
  · rw [hrun] at hlog
    exact ⟨new, hlog, hnew⟩
  · rw [hrun] at hlog
    obtain ⟨new', hlog', hnew'⟩ := hf a c'
    exact extended_twice hlog hnew hlog' hnew'

theorem tryCatch {m : StoreM α} {h : Fault → StoreM α} (hm : SendsInOrder d m)
    (hh : ∀ e, SendsInOrder d (h e)) : SendsInOrder d (tryCatch m h) := by
  intro c
  obtain ⟨new, hlog, hnew⟩ := hm c
  rw [run_tryCatch]
  rcases hrun : m.run.run c with ⟨e | a, c'⟩
  · rw [hrun] at hlog
    obtain ⟨new', hlog', hnew'⟩ := hh e c'
    exact extended_twice hlog hnew hlog' hnew'
  · rw [hrun] at hlog
    exact ⟨new, hlog, hnew⟩

theorem map {m : StoreM α} (f : α → β) (hm : SendsInOrder d m) : SendsInOrder d (f <$> m) := by
  rw [← bind_pure_comp]
  exact hm.bind fun a => pure (f a)

/-- A statement written in order for its `n` arguments is sent rewritten for the dialect. The
count is given apart, so that the statement's check is closed even where the arguments are not. -/
theorem run {sql : String} {args : List SqlValue} (n : Nat) (hn : args.length = n)
    (h : WrittenInOrder sql n) : SendsInOrder d (Sql.run d sql args) :=
  fun c => ⟨_, by rw [Sql.run, state_onServer, log_exec], by simpa using ⟨sql, hn ▸ h, rfl⟩⟩

theorem ask {sql : String} {args : List SqlValue} (n : Nat) (hn : args.length = n)
    (h : WrittenInOrder sql n) : SendsInOrder d (Sql.ask d sql args) :=
  fun c => ⟨_, by rw [Sql.ask, state_onServer, log_query], by simpa using ⟨sql, hn ▸ h, rfl⟩⟩

theorem get : SendsInOrder d (MonadState.get : StoreM Connection) := of_log_eq fun _ => rfl

theorem wrapping {m : StoreM α} (step : String) (hm : SendsInOrder d m) :
    SendsInOrder d (Sql.wrapping step m) :=
  hm.tryCatch fun _ => throw _

theorem wrappingFound {m : StoreM α} (step : String) (hm : SendsInOrder d m) :
    SendsInOrder d (Sql.wrappingFound step m) :=
  hm.tryCatch fun _ => throw _

theorem attemptStore {m : StoreM α} (hm : SendsInOrder d m) : SendsInOrder d (Sql.attemptStore m) :=
  (hm.map _).tryCatch fun _ => pure _

theorem liftResult (r : Except Fault α) : SendsInOrder d (Sql.liftResult r) := by
  cases r with
  | error e => exact throw e
  | ok a => exact pure a

theorem firstRow (rows : Rows) (targets : List Target) : SendsInOrder d (Sql.firstRow rows targets) :=
  liftResult _

theorem liftResult_bind {r : Except Fault α} {f : α → StoreM β}
    (hf : ∀ a, r = .ok a → SendsInOrder d (f a)) : SendsInOrder d (Sql.liftResult r >>= f) := by
  cases r with
  | error e => exact of_log_eq fun _ => rfl
  | ok a =>
    show SendsInOrder d (Pure.pure a >>= f)
    rw [pure_bind]
    exact hf a rfl

theorem forIn {γ : Type} {xs : List γ} {b : β} {f : γ → β → StoreM (ForInStep β)}
    (hf : ∀ x ∈ xs, ∀ b, SendsInOrder d (f x b)) : SendsInOrder d (forIn xs b f) := by
  induction xs generalizing b with
  | nil => exact pure b
  | cons x rest ih =>
    rw [List.forIn_cons]
    refine (hf x List.mem_cons_self b).bind fun step => ?_
    cases step with
    | done b' => exact pure b'
    | yield b' => exact ih fun y hy => hf y (List.mem_cons_of_mem _ hy)

end SendsInOrder

/-! ### Transactions -/

def LogsEventsOnly {α : Type} (m : ConnM α) : Prop :=
  ∀ c, ∃ names : List String, (m.run.run c).2.log = c.log ++ names.map LogEntry.event

theorem logsEventsOnly_events :
    LogsEventsOnly ping ∧ LogsEventsOnly beginTx ∧ LogsEventsOnly commitTx ∧
      LogsEventsOnly rollbackTx := by
  refine ⟨?_, ?_, ?_, ?_⟩ <;> rintro ⟨script, log, fb, fc, fr, fp, now⟩
  · exact ⟨["PING"], by cases fp <;> rfl⟩
  · exact ⟨["BEGIN"], by cases fb <;> rfl⟩
  · exact ⟨["COMMIT"], by cases fc <;> rfl⟩
  · exact ⟨["ROLLBACK"], by cases fr <;> rfl⟩

theorem LogsEventsOnly.attempt {α : Type} {m : ConnM α} (h : LogsEventsOnly m) :
    LogsEventsOnly (attempt m) := by
  intro c
  obtain ⟨names, hlog⟩ := h c
  refine ⟨names, ?_⟩
  simp only [Sql.attempt, ExceptT.run_tryCatch, ExceptT.run_map, StateT.run_bind, StateT.run_map]
  rcases hrun : m.run.run c with ⟨_ | a, c'⟩ <;> rw [hrun] at hlog <;> exact hlog

theorem SendsInOrder.onServer_events {d : Dialect} {α : Type} {m : ConnM α} (h : LogsEventsOnly m) :
    SendsInOrder d (onServer m) := by
  intro c
  obtain ⟨names, hlog⟩ := h c
  refine ⟨names.map LogEntry.event, by rw [state_onServer, hlog], fun e he => ?_⟩
  obtain ⟨name, -, rfl⟩ := List.mem_map.1 he
  trivial

theorem SendsInOrder.withTx {d : Dialect} {α : Type} {body : StoreM α} (h : SendsInOrder d body) :
    SendsInOrder d (withTx body) := by
  obtain ⟨-, hbegin, hcommit, hrollback⟩ := logsEventsOnly_events
  refine (wrapping _ (onServer_events hbegin)).bind fun _ => (attemptStore h).bind fun r => ?_
  cases r with
  | error e =>
    refine (onServer_events hrollback.attempt).bind fun rb => ?_
    cases rb with
    | error _ => exact throw _
    | ok _ => exact throw e
  | ok a => exact (wrapping _ (onServer_events hcommit)).bind fun _ => pure a

/-! ### Migrations -/

/-- A migration's statements are those of its script, so they have no mark when it has none. -/
theorem SendsInOrder.applyMigration {d : Dialect} {m : Migration} (h : Unmarked m.text) :
    SendsInOrder d (applyMigration d m) := by
  unfold Sql.applyMigration
  refine (SendsInOrder.forIn fun stmt hstmt _ => ?_).bind fun _ => .pure ()
  have hs : Unmarked stmt :=
    forall_splitFrom (by decide) .code [] _ (fun _ hx => absurd hx List.not_mem_nil) h stmt hstmt
  have hsent := Unmarked.writtenInOrder (forall_stripLeadingComments (by decide) hs)
  dsimp only
  split
  · exact (wrapping _ (run 0 rfl hsent)).bind fun _ => pure _
  · exact pure _

theorem SendsInOrder.currentVersion (d : Dialect) : SendsInOrder d (currentVersion d) := by
  unfold Sql.currentVersion
  refine wrapping _ ((((ask 0 rfl (writtenInOrder_ofList (by decide))).bind fun rows =>
    firstRow rows _)).bind fun row => ?_)
  cases row with
  | none => exact throw _
  | some row => exact pure _

/-- What migrating sends: the table of versions, the version reached, and then each migration
above it, with its record. -/
theorem SendsInOrder.migrate (d : Dialect) : SendsInOrder d (migrate d) := by
  unfold Sql.migrate
  refine (wrapping _ (run 0 rfl (writtenInOrder_ofList (by decide)))).bind fun _ =>
    liftResult_bind fun ms hms => ?_
  have hload : loadMigrations d.name = .ok ms := by
    cases hl : loadMigrations d.name with
    | error e => rw [hl] at hms; cases hms
    | ok ms' => rw [hl] at hms; cases hms; rfl
  have hunmarked := unmarked_of_loadMigrations hload
  refine (wrapping _ (currentVersion d)).bind fun current =>
    (forIn fun m hm _ => ?_).bind fun _ => pure ()
  split
  · exact (wrapping _ (applyMigration (hunmarked m hm))).bind fun _ =>
      (wrapping _ (wrapping _ (run 1 rfl (writtenInOrder_ofList (by decide))))).bind fun _ =>
        pure _
  · exact pure _

/-! ### The store's calls -/

theorem segmentColumns_unmarked : Unmarked segmentColumns := unmarked_ofList (by decide)

theorem WrittenInOrder.forUpdate {sql : String} {n : Nat} (h : WrittenInOrder sql n) (lock : Bool) :
    WrittenInOrder (sql ++ if lock then " FOR UPDATE" else "") n := by
  cases lock with
  | false =>
    rw [if_neg Bool.false_ne_true]
    exact h.append_unmarked (unmarked_ofList rfl) rfl
  | true =>
    rw [if_pos rfl]
    exact h.append_unmarked (unmarked_ofList (by decide)) (by rw [head_toList_ofList rfl]; rfl)

theorem segmentByKey_writtenInOrder (lock : Bool) : WrittenInOrder (segmentByKey lock) 2 := by
  unfold segmentByKey
  exact (WrittenInOrder.unmarked_append ((unmarked_ofList (by decide)).append segmentColumns_unmarked)
    (writtenInOrder_ofList (by decide))).forUpdate lock

theorem upsert_writtenInOrder (d : Dialect) {insert conflict col : String} {cols : List String}
    {n : Nat} (hinsert : WrittenInOrder insert n) (hc : Unmarked conflict)
    (hcols : ∀ c ∈ col :: cols, Unmarked c) :
    WrittenInOrder (insert ++ d.upsertSuffix conflict (col :: cols)) n := by
  obtain ⟨hsuffix, hhead⟩ := upsertSuffix_unmarked d hc hcols
  exact hinsert.append_unmarked hsuffix (by rw [hhead]; rfl)

namespace SendsInOrder

variable {d : Dialect}

theorem openStore : SendsInOrder d Sql.openStore := wrapping _ (onServer_events logsEventsOnly_events.1)

theorem scanSegment (rows : Rows) : SendsInOrder d (Sql.scanSegment rows) := by
  refine (firstRow rows _).bind fun row => ?_
  cases row with
  | none => exact pure _
  | some row => exact (liftResult _).map _

theorem askSegment (lock : Bool) (flow : String) (stop : Int) :
    SendsInOrder d (Sql.ask d (segmentByKey lock) [.text flow, .int stop] >>= Sql.scanSegment) :=
  (ask 2 rfl (segmentByKey_writtenInOrder lock)).bind scanSegment

theorem putSegment (s : Segment) : SendsInOrder d (Sql.putSegment d s) := by
  have hcols : ∀ c ∈ ["timerange_start", "object_id", "doc"], Unmarked c := by
    simp only [List.forall_mem_cons, List.not_mem_nil, false_implies, implies_true, and_true]
    and_intros <;> exact unmarked_ofList (by decide)
  refine wrapping _ ((run 5 rfl (upsert_writtenInOrder d ?_ (unmarked_ofList (by decide)) hcols)).bind
    fun _ => pure ())
  exact WrittenInOrder.unmarked_append ((unmarked_ofList (by decide)).append segmentColumns_unmarked)
    (writtenInOrder_ofList (by decide))

theorem getSegment (flow : String) (stop : Int) : SendsInOrder d (Sql.getSegment d flow stop) := by
  refine (wrapping _ (askSegment false flow stop)).bind fun seg => ?_
  cases seg with
  | none => exact throw _
  | some seg => exact pure seg

theorem deleteSegment (flow : String) (stop : Int) : SendsInOrder d (Sql.deleteSegment d flow stop) := by
  refine (attemptStore (withTx ((askSegment true flow stop).bind fun seg => ?_))).bind fun r => ?_
  · cases seg with
    | none => exact throw _
    | some seg =>
      refine (run 2 rfl (writtenInOrder_ofList (by decide))).bind fun res => ?_
      split
      · exact throw _
      · exact pure seg
  · cases r with
    | ok seg => exact pure seg
    | error e => exact throw _

theorem appendStorageIds (flow : String) (stop : Int) (ids : List String) :
    SendsInOrder d (Sql.appendStorageIds d flow stop ids) := by
  refine (attemptStore (withTx ((askSegment true flow stop).bind fun seg => ?_))).bind fun r => ?_
  · cases seg with
    | none => exact throw _
    | some seg =>
      dsimp only
      split
      · exact (run 3 rfl (writtenInOrder_ofList (by decide))).bind fun _ => pure ()
      · exact pure ()
  · cases r with
    | ok u => exact pure u
    | error e => exact throw _

theorem countObjectReferences (object : String) :
    SendsInOrder d (Sql.countObjectReferences d object) := by
  refine wrapping _ (((ask 1 rfl (writtenInOrder_ofList (by decide))).bind fun rows =>
    firstRow rows _).bind fun row => ?_)
  cases row with
  | none => exact throw _
  | some row => exact pure _

theorem writeFlow (f : Flow) : SendsInOrder d (Sql.writeFlow d f) := by
  have hcols : ∀ c ∈ ["source_id", "doc", "updated_at"], Unmarked c := by
    simp only [List.forall_mem_cons, List.not_mem_nil, false_implies, implies_true, and_true]
    and_intros <;> exact unmarked_ofList (by decide)
  refine (liftResult _).bind fun doc => get.bind fun c => (run 4 rfl ?_).bind fun _ => pure ()
  exact upsert_writtenInOrder d (writtenInOrder_ofList (by decide)) (unmarked_ofList (by decide))
    hcols

theorem readFlowRow (id : String) (lock : Bool) : SendsInOrder d (Sql.readFlowRow d id lock) := by
  refine (ask 1 rfl ((writtenInOrder_ofList (by decide)).forUpdate lock)).bind fun rows =>
    (firstRow rows _).bind fun row => ?_
  cases row with
  | none => exact throw _
  | some row => exact liftResult _

theorem putFlow (f : Flow) : SendsInOrder d (Sql.putFlow d f) := wrapping _ (writeFlow f)

theorem getFlow (id : String) : SendsInOrder d (Sql.getFlow d id) :=
  wrappingFound _ (readFlowRow id false)

theorem deleteFlow (id : String) : SendsInOrder d (Sql.deleteFlow d id) := by
  refine (wrapping _ (run 1 rfl (writtenInOrder_ofList (by decide)))).bind fun res => ?_
  split
  · exact throw _
  · exact pure ()

theorem touchSegmentsUpdated (id : String) (instant : Instant) :
    SendsInOrder d (Sql.touchSegmentsUpdated d id instant) :=
  wrappingFound _ (withTx ((readFlowRow id true).bind fun _ => writeFlow _))

theorem putDeleteRequest (r : DeleteRequest) : SendsInOrder d (Sql.putDeleteRequest d r) := by
  have hcols : ∀ c ∈ ["status", "doc"], Unmarked c := by
    simp only [List.forall_mem_cons, List.not_mem_nil, false_implies, implies_true, and_true]
    and_intros <;> exact unmarked_ofList (by decide)
  refine (liftResult _).bind fun doc => wrapping _ ((run 5 rfl ?_).bind fun _ => pure ())
  exact upsert_writtenInOrder d (writtenInOrder_ofList (by decide)) (unmarked_ofList (by decide))
    hcols

theorem getDeleteRequest (id : String) : SendsInOrder d (Sql.getDeleteRequest d id) := by
  refine (wrapping _ ((ask 1 rfl (writtenInOrder_ofList (by decide))).bind fun rows =>
    firstRow rows _)).bind fun row => ?_
  cases row with
  | none => exact throw _
  | some row => exact liftResult _

theorem listDeleteRequests (flow : String) : SendsInOrder d (Sql.listDeleteRequests d flow) := by
  refine (wrapping _ ?_).bind fun rows => (liftResult _).bind fun rs => ?_
  · split
    · exact ask 0 rfl (writtenInOrder_ofList (by decide))
    · exact ask 1 rfl (writtenInOrder_ofList (by decide))
  · split
    · exact throw _
    · exact pure rs

theorem deleteDeleteRequest (id : String) : SendsInOrder d (Sql.deleteDeleteRequest d id) := by
  refine (wrapping _ (run 1 rfl (writtenInOrder_ofList (by decide)))).bind fun res => ?_
  split
  · exact throw _
  · exact pure ()

end SendsInOrder

/-! ### Every call of the store -/

/-- A call of the store. The query of a flow's segments is not one of them: it writes its
placeholders in the dialect itself, and sends its statement as it is. -/
inductive StoreCall where
  | openStore
  | putSegment (s : Segment)
  | getSegment (flow : String) (stop : Int)
  | deleteSegment (flow : String) (stop : Int)
  | appendStorageIds (flow : String) (stop : Int) (ids : List String)
  | countObjectReferences (object : String)
  | putFlow (f : Flow)
  | getFlow (id : String)
  | deleteFlow (id : String)
  | touchSegmentsUpdated (id : String) (instant : Instant)
  | putDeleteRequest (r : DeleteRequest)
  | getDeleteRequest (id : String)
  | listDeleteRequests (flow : String)
  | deleteDeleteRequest (id : String)
  | migrate

def StoreCall.perform (d : Dialect) : StoreCall → StoreM Unit
  | .openStore => Sql.openStore
  | .putSegment s => Sql.putSegment d s
  | .getSegment flow stop => (fun _ => ()) <$> Sql.getSegment d flow stop
  | .deleteSegment flow stop => (fun _ => ()) <$> Sql.deleteSegment d flow stop
  | .appendStorageIds flow stop ids => Sql.appendStorageIds d flow stop ids
  | .countObjectReferences object => (fun _ => ()) <$> Sql.countObjectReferences d object
  | .putFlow f => Sql.putFlow d f
  | .getFlow id => (fun _ => ()) <$> Sql.getFlow d id
  | .deleteFlow id => Sql.deleteFlow d id
  | .touchSegmentsUpdated id instant => Sql.touchSegmentsUpdated d id instant
  | .putDeleteRequest r => Sql.putDeleteRequest d r
  | .getDeleteRequest id => (fun _ => ()) <$> Sql.getDeleteRequest d id
  | .listDeleteRequests flow => (fun _ => ()) <$> Sql.listDeleteRequests d flow
  | .deleteDeleteRequest id => Sql.deleteDeleteRequest d id
  | .migrate => Sql.migrate d

theorem StoreCall.sendsInOrder (d : Dialect) : ∀ call : StoreCall, SendsInOrder d (call.perform d)
  | .openStore => .openStore
  | .putSegment s => .putSegment s
  | .getSegment flow stop => (SendsInOrder.getSegment flow stop).map _
  | .deleteSegment flow stop => (SendsInOrder.deleteSegment flow stop).map _
  | .appendStorageIds flow stop ids => .appendStorageIds flow stop ids
  | .countObjectReferences object => (SendsInOrder.countObjectReferences object).map _
  | .putFlow f => .putFlow f
  | .getFlow id => (SendsInOrder.getFlow id).map _
  | .deleteFlow id => .deleteFlow id
  | .touchSegmentsUpdated id instant => .touchSegmentsUpdated id instant
  | .putDeleteRequest r => .putDeleteRequest r
  | .getDeleteRequest id => (SendsInOrder.getDeleteRequest id).map _
  | .listDeleteRequests flow => (SendsInOrder.listDeleteRequests flow).map _
  | .deleteDeleteRequest id => .deleteDeleteRequest id
  | .migrate => .migrate d

theorem StoreCall.runSendsInOrder (d : Dialect) (calls : List StoreCall) :
    SendsInOrder d (calls.forM fun call => call.perform d) := by
  induction calls with
  | nil => exact SendsInOrder.pure _
  | cons call rest ih =>
    exact (call.sendsInOrder d).bind fun _ => ih

/-- MySQL's rewriting keeps the binding of every statement the store sends. Every text has a
maximal cut into characters and placeholders; for every such cut the rewriting writes each
placeholder as one `?` and keeps every other character in place; and when the placeholders are
`$1`, …, `$k` in the order they stand and the text has no `?` of its own, the rewritten text binds
its arguments positionally exactly as the text binds them by number. Every statement the store
sends, over every run of its calls, is such a text, rewritten for the dialect. -/
theorem rewritten_placeholders_bind_in_order :
    (∀ q : String, (∃ ps, ps.flatMap Piece.text = q.toList ∧ Maximal ps) ∧
      ∀ ps, ps.flatMap Piece.text = q.toList → Maximal ps →
        (Dialect.mysql.rewritePlaceholders q).toList = ps.flatMap Piece.positional ∧
        ∀ k, placeholderNumbers ps = List.range' 1 k → '?' ∉ q.toList →
          positionalBinding 1 (Dialect.mysql.rewritePlaceholders q).toList = ps.map Piece.slot) ∧
      ∀ (d : Dialect) (calls : List StoreCall),
        SendsInOrder d (calls.forM fun call => call.perform d) :=
  ⟨rewritePlaceholders_binds_in_order, StoreCall.runSendsInOrder⟩

/-- The update of a segment's document binds its three arguments in order under both dialects. -/
theorem rewritten_placeholders_bind_in_order_update :
    placeholderNumbers
        (pieces "UPDATE segments SET doc = $1 WHERE flow_id = $2 AND timerange_end = $3".toList) =
        List.range' 1 3 ∧
      '?' ∉ "UPDATE segments SET doc = $1 WHERE flow_id = $2 AND timerange_end = $3".toList ∧
      positionalBinding 1
          (Dialect.mysql.rewritePlaceholders
            "UPDATE segments SET doc = $1 WHERE flow_id = $2 AND timerange_end = $3").toList =
        (pieces "UPDATE segments SET doc = $1 WHERE flow_id = $2 AND timerange_end = $3".toList).map
          Piece.slot := by
  obtain ⟨hnum, hq⟩ : WrittenInOrder
      "UPDATE segments SET doc = $1 WHERE flow_id = $2 AND timerange_end = $3" 3 :=
    writtenInOrder_ofList (by decide)
  exact ⟨hnum, hq, ((rewritten_placeholders_bind_in_order.1 _).2 _ (flatMap_text_pieces _)
    (maximal_pieces _)).2 3 hnum hq⟩

end MediaTimeline.Sql
