import Mathlib
import MediaTimeline.Proofs.Packing
import MediaTimeline.Proofs.CleanupTasks

/-! Cleanup tasks within the message cap. -/

namespace MediaTimeline

namespace ServiceM

open Cleanup

theorem size_cleanupDoc (ids : List String) :
    ((cleanupDoc ids).render.utf8ByteSize : Int) = cleanupEnvelope + arraySize ids := by
  have henv : cleanupEnvelope = 15 := by decide
  have hkey : (JsonValue.quote "object_ids").utf8ByteSize = 12 := by decide
  have hopen : ("\x7b" : String).utf8ByteSize = 1 := by decide
  have hclose : ("\x7d" : String).utf8ByteSize = 1 := by decide
  have hcolon : (":" : String).utf8ByteSize = 1 := by decide
  rw [henv]
  simp only [cleanupDoc, arraySize, JsonValue.render, JsonValue.renderFields,
    String.utf8ByteSize_append, hkey, hopen, hclose, hcolon]
  omega

/-- A batch within the packing cap, or of a single id, makes a payload within the message cap,
or is a single id. Below the envelope the packing cap is one byte, which no array fits. -/
theorem payload_within_cap {b : List String} {cap : Int}
    (hb : b.length = 1 ∨ (arraySize b : Int) ≤
      if max (cap - cleanupEnvelope) 1 ≤ 0 then defaultMessageSize else max (cap - cleanupEnvelope) 1) :
    b.length = 1 ∨ ((cleanupDoc b).render.utf8ByteSize : Int) ≤ cap := by
  rw [if_neg (by omega)] at hb
  have hsize := size_cleanupDoc b
  have hbrackets : 2 ≤ arraySize b := by rw [arraySize_eq]; omega
  omega

theorem runOn_enqueue_new_ok {t t' : Task} (hid : t.id = "") {s s' : Service}
    (h : (enqueue t).runOn s = (.ok (.ok t'), s')) :
    s'.accepted = s.accepted ++ [t'] ∧ t'.kind = t.kind ∧ t'.payload = t.payload := by
  rw [runOn_enqueue_new t hid] at h
  dsimp only at h
  split_ifs at h
  · simp at h
  split at h
  · rename_i t₂ q heq
    simp only [Prod.mk.injEq, Except.ok.injEq] at h
    obtain ⟨rfl, rfl⟩ := h
    obtain ⟨-, hk, hp, -⟩ := TaskQueue.enqueue_eq_ok heq
    exact ⟨rfl, hk, hp⟩
  · simp at h

theorem runOn_dispatch_go_ok (cfg : ServiceConfig) (total : Nat) (bs : List (List String)) (i : Nat)
    {s s' : Service} (h : (dispatch.go cfg total bs i).runOn s = (.ok (.ok ()), s')) :
    ∃ ts : List Task, s'.accepted = s.accepted ++ ts ∧ ts.map Task.work = cleanupWork bs := by
  induction bs generalizing i s with
  | nil =>
    simp only [dispatch.go, runOn_pure, Prod.mk.injEq] at h
    exact ⟨[], by rw [← h.2, List.append_nil], rfl⟩
  | cons b rest ih =>
    simp only [dispatch.go, runOn_bind, runOn_step, runOn_discard] at h
    rcases he : (enqueue
        { kind := objectCleanupTask, payload := (cleanupDoc b).render,
          maxRetries := cfg.cleanupRetries }).runOn s with ⟨(c | (e | t')), s₁⟩ <;>
      simp only [he] at h
    · -- a crash or a failure of the enqueue ends the hand-off unsuccessfully
      simp at h
    · simp at h
    · obtain ⟨hacc, hk, hp⟩ := runOn_enqueue_new_ok rfl he
      obtain ⟨ts, hacc', hwork⟩ := ih (i + 1) h
      refine ⟨t' :: ts, by rw [hacc', hacc, List.append_assoc, List.singleton_append], ?_⟩
      rw [List.map_cons, hwork]
      simp [cleanupWork, Task.work, hk, hp]

theorem runOn_dispatch_ok {ids : List String} {s s' : Service}
    (h : (dispatch ids).runOn s = (.ok (.ok ()), s')) :
    ∃ bs ts, pack ids (max (s.config.maxMessageSize - cleanupEnvelope) 1) = .ok bs ∧
      s'.accepted = s.accepted ++ ts ∧ ts.map Task.work = cleanupWork bs := by
  simp only [dispatch, runOn_bind, runOn_get] at h
  rcases hp : pack ids (max (s.config.maxMessageSize - cleanupEnvelope) 1) with e | bs <;>
    simp only [hp, runOn_bind, runOn_crash, runOn_pure] at h
  · -- packing fails only by crashing
    simp at h
  · obtain ⟨ts, hacc, hwork⟩ := runOn_dispatch_go_ok _ _ _ _ h
    exact ⟨bs, ts, rfl, hacc, hwork⟩

theorem mem_cleanupWork {ts : List Task} {bs : List (List String)}
    (h : ts.map Task.work = cleanupWork bs) {t : Task} (ht : t ∈ ts) :
    ∃ b ∈ bs, t.payload = (cleanupDoc b).render := by
  have hw : t.work ∈ cleanupWork bs := h ▸ List.mem_map_of_mem ht
  obtain ⟨b, hb, he⟩ := List.mem_map.1 hw
  exact ⟨b, hb, (congrArg Prod.snd he).symm⟩

/-- When handing objects to cleanup succeeds, whatever the message cap: the ids were packed for
the cap less the envelope and at least one byte, the queue took one cleanup task per batch, in
order, whose payload reads back as the batch, the batches read in order are the ids, and each
payload is the envelope and its array of ids, within the message cap unless it holds a single
id. -/
theorem dispatch_payloads_within_cap (ids : List String) (s s' : Service)
    (h : (dispatch ids).runOn s = (.ok (.ok ()), s')) :
    ∃ bs ts, pack ids (max (s.config.maxMessageSize - cleanupEnvelope) 1) = .ok bs ∧
      s'.accepted = s.accepted ++ ts ∧
      ts.map (fun t => (t.kind, TaskPayload.objectIds t.payload)) =
        bs.map (fun b => (objectCleanupTask, .ok b)) ∧
      bs.flatten = ids ∧
      ∀ t ∈ ts, ∃ b, TaskPayload.objectIds t.payload = .ok b ∧
        (t.payload.utf8ByteSize : Int) = cleanupEnvelope + arraySize b ∧
        (b.length = 1 ∨ (t.payload.utf8ByteSize : Int) ≤ s.config.maxMessageSize) := by
  obtain ⟨bs, ts, hpack, hacc, hwork⟩ := runOn_dispatch_ok h
  have hdecode : ts.map (fun t => (t.kind, TaskPayload.objectIds t.payload)) =
      bs.map (fun b => (objectCleanupTask, .ok b)) := by
    have := congrArg (List.map fun w => (w.1, TaskPayload.objectIds w.2)) hwork
    simpa [List.map_map, cleanupWork, Function.comp_def, Task.work, objectIds_cleanupDoc] using this
  refine ⟨bs, ts, hpack, hacc, hdecode, flatten_of_pack hpack, fun t ht => ?_⟩
  obtain ⟨b, hb, hpay⟩ := mem_cleanupWork hwork ht
  refine ⟨b, by rw [hpay, objectIds_cleanupDoc], by rw [hpay, size_cleanupDoc], ?_⟩
  rw [hpay]
  exact payload_within_cap (mem_pack hpack hb).2

/-- Three ids under a message cap of 30: the packing cap is 15 bytes and the array of all three
takes 16, so the hand-off queues two tasks, of 24 and 21 bytes. -/
theorem dispatch_payloads_within_cap_three :
    (dispatch ["o1", "o2", "o3"]).runOn { config := { maxMessageSize := 30 } } =
        (.ok (.ok ()), ((dispatch ["o1", "o2", "o3"]).runOn { config := { maxMessageSize := 30 } }).2) ∧
      ∃ bs ts, pack ["o1", "o2", "o3"]
          (max (({ config := { maxMessageSize := 30 } } : Service).config.maxMessageSize -
            cleanupEnvelope) 1) = .ok bs ∧
        ((dispatch ["o1", "o2", "o3"]).runOn { config := { maxMessageSize := 30 } }).2.accepted =
          ({ config := { maxMessageSize := 30 } } : Service).accepted ++ ts ∧
        ts.map (fun t => (t.kind, TaskPayload.objectIds t.payload)) =
          bs.map (fun b => (objectCleanupTask, .ok b)) ∧
        bs.flatten = ["o1", "o2", "o3"] ∧
        ∀ t ∈ ts, ∃ b, TaskPayload.objectIds t.payload = .ok b ∧
          (t.payload.utf8ByteSize : Int) = cleanupEnvelope + arraySize b ∧
          (b.length = 1 ∨ (t.payload.utf8ByteSize : Int) ≤
            ({ config := { maxMessageSize := 30 } } : Service).config.maxMessageSize) := by
  have hup : ({ config := { maxMessageSize := 30 } } : Service).TakesTasks := ⟨rfl, rfl⟩
  have hpack : pack ["o1", "o2", "o3"]
      (max (({ config := { maxMessageSize := 30 } } : Service).config.maxMessageSize -
        cleanupEnvelope) 1) = .ok [["o1", "o2"], ["o3"]] := by
    decide +kernel
  have hd := runOn_dispatch ["o1", "o2", "o3"] _ hup
  rw [hpack] at hd
  obtain ⟨s', ts, hrun, -⟩ := hd
  have hok : (dispatch ["o1", "o2", "o3"]).runOn { config := { maxMessageSize := 30 } } =
      (.ok (.ok ()), ((dispatch ["o1", "o2", "o3"]).runOn { config := { maxMessageSize := 30 } }).2) := by
    rw [hrun]
  exact ⟨hok, dispatch_payloads_within_cap _ _ _ hok⟩

end ServiceM

end MediaTimeline
