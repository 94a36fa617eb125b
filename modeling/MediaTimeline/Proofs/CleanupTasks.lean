import Mathlib
import MediaTimeline.Proofs.QueueFeed

/-! Cleanup tasks and the objects they owe. -/

namespace MediaTimeline

namespace Json

open Text JsonValue

theorem utf8Bytes_ascii_char (c : Char) (h : c.toNat < 128) :
    utf8Bytes (String.ofList [c]) = [UInt8.ofNat c.toNat] := by
  rw [utf8Bytes_ofList, List.flatMap_singleton, utf8EncodeChar_of_lt h]

theorem utf8Bytes_renderItems_cons_cons (a b : String) (rest : List String) :
    utf8Bytes (renderItems ((a :: b :: rest).map .str)) =
      utf8Bytes (JsonValue.quote a) ++ 0x2C :: utf8Bytes (renderItems ((b :: rest).map .str)) := by
  simp only [List.map_cons, renderItems, render, utf8Bytes_append]
  rw [show ("," : String) = String.ofList [','] from rfl, utf8Bytes_ascii_char _ (by decide)]
  simp

theorem readItems_strings (a : String) (rest : List String) (m depth : Nat) (acc : List JsonValue)
    (r : List UInt8) :
    readItems (m + 2 * rest.length + 2) depth acc
        (utf8Bytes (renderItems ((a :: rest).map .str)) ++ 0x5D :: r) =
      .ok (.arr (acc.reverse ++ (a :: rest).map .str), r) := by
  induction rest generalizing a m acc with
  | nil =>
    have hv := readValue_quote m depth a (0x5D :: r)
    rw [List.length_nil, show m + 2 * 0 + 2 = (m + 1) + 1 by omega, readItems]
    simp only [List.map_cons, List.map_nil, renderItems, render]
    simp [hv, skipBlanks_of_not_blank (b := 0x5D) (by decide), bind, Except.bind]
  | cons b rest ih =>
    have hv := readValue_quote (m + 2 * rest.length + 2) depth a
      (0x2C :: (utf8Bytes (renderItems ((b :: rest).map .str)) ++ 0x5D :: r))
    rw [utf8Bytes_renderItems_cons_cons, List.append_assoc, List.cons_append, List.length_cons,
      show m + 2 * (rest.length + 1) + 2 = (m + 2 * rest.length + 2 + 1) + 1 by omega, readItems]
    simp only [hv, bind, Except.bind, skipBlanks_of_not_blank (b := 0x2C) (by decide), if_true]
    rw [show m + 2 * rest.length + 2 + 1 = (m + 1) + 2 * rest.length + 2 by omega, ih]
    simp

theorem readArray_strings (ids : List String) (m depth : Nat) (r : List UInt8) :
    readArray (m + 2 * ids.length + 3) depth (utf8Bytes (renderItems (ids.map .str)) ++ 0x5D :: r) =
      .ok (.arr (ids.map .str), r) := by
  cases ids with
  | nil =>
    rw [show m + 2 * [].length + 3 = (m + 2) + 1 by simp, readArray, List.map_nil, renderItems,
      show utf8Bytes "" = [] by simp [utf8Bytes_eq], List.nil_append,
      skipBlanks_of_not_blank (by decide)]
    rfl
  | cons a rest =>
    obtain ⟨t, ht⟩ : ∃ t, utf8Bytes (renderItems ((a :: rest).map .str)) ++ 0x5D :: r = 0x22 :: t := by
      cases rest with
      | nil => simp [renderItems, render, utf8Bytes_quote]
      | cons b rest =>
        rw [utf8Bytes_renderItems_cons_cons, utf8Bytes_quote]
        exact ⟨_, rfl⟩
    rw [List.length_cons, show m + 2 * (rest.length + 1) + 3 = (m + 2 * rest.length + 4) + 1 by omega,
      readArray, ht, skipBlanks_of_not_blank (by decide)]
    have hread : readItems (m + 2 * rest.length + 4) depth [] (0x22 :: t) =
        .ok (.arr ((a :: rest).map .str), r) := by
      rw [← ht, show m + 2 * rest.length + 4 = (m + 2) + 2 * rest.length + 2 by omega,
        readItems_strings]
      simp
    split
    · rename_i heq
      simp at heq
    · exact hread

theorem length_le_utf8Bytes_renderItems (ids : List String) :
    ids.length ≤ (utf8Bytes (renderItems (ids.map .str))).length := by
  induction ids with
  | nil => simp
  | cons a rest ih =>
    cases rest with
    | nil => simp [renderItems, render, utf8Bytes_quote]
    | cons b rest =>
      rw [utf8Bytes_renderItems_cons_cons, utf8Bytes_quote]
      simp only [List.length_cons, List.length_append] at ih ⊢
      omega

theorem foldlM_strings {ε : Type} {step : List String → JsonValue × Nat → Except ε (List String)}
    (hstep : ∀ acc a i, step acc (.str a, i) = .ok (acc ++ [a])) (ids : List String) (n : Nat)
    (acc : List String) : ((ids.map JsonValue.str).zipIdx n).foldlM step acc = .ok (acc ++ ids) := by
  induction ids generalizing n acc with
  | nil => simp [pure, Except.pure]
  | cons a rest ih =>
    rw [List.map_cons, List.zipIdx_cons, List.foldlM_cons, hstep]
    exact (ih (n + 1) (acc ++ [a])).trans (by simp)

theorem decodeTexts_strings (place : FieldPlace) (ids : List String) :
    decodeTexts place (.arr (ids.map .str)) = .ok (some ids) := by
  -- the step is the reader's own, so that its match is the one `decodeTexts` was built with
  rw [decodeTexts, foldlM_strings (fun _ _ _ => rfl) ids 0 []]
  rfl

end Json

namespace ServiceM

open Text Json JsonValue

theorem utf8Bytes_cleanupDoc (ids : List String) :
    utf8Bytes (cleanupDoc ids).render =
      0x7B :: (utf8Bytes (JsonValue.quote "object_ids") ++
        0x3A :: 0x5B :: (utf8Bytes (renderItems (ids.map .str)) ++ [0x5D, 0x7D])) := by
  simp only [cleanupDoc, render, renderFields, utf8Bytes_append]
  simp only [show ("\x7b" : String) = String.ofList ['{'] from rfl,
    show ("\x7d" : String) = String.ofList ['}'] from rfl,
    show (":" : String) = String.ofList [':'] from rfl,
    show ("[" : String) = String.ofList ['['] from rfl,
    show ("]" : String) = String.ofList [']'] from rfl,
    utf8Bytes_ascii_char _ (by decide : '{'.toNat < 128),
    utf8Bytes_ascii_char _ (by decide : '}'.toNat < 128),
    utf8Bytes_ascii_char _ (by decide : ':'.toNat < 128),
    utf8Bytes_ascii_char _ (by decide : '['.toNat < 128),
    utf8Bytes_ascii_char _ (by decide : ']'.toNat < 128)]
  simp

theorem readJson_cleanupDoc (ids : List String) :
    readJson (utf8Bytes (cleanupDoc ids).render) = .ok (.obj [("object_ids", .arr (ids.map .str))]) := by
  -- the reader's fuel grows with the text, and each id takes two steps of it
  obtain ⟨m, hm⟩ : ∃ m, 4 * (utf8Bytes (cleanupDoc ids).render).length + 4 = m + 2 * ids.length + 7 := by
    have := length_le_utf8Bytes_renderItems ids
    refine ⟨4 * (utf8Bytes (cleanupDoc ids).render).length + 4 - (2 * ids.length + 7), ?_⟩
    rw [utf8Bytes_cleanupDoc]
    simp only [List.length_cons, List.length_append]
    omega
  have harr := readArray_strings ids m 2 [0x7D]
  have hval : readValue (m + 2 * ids.length + 4) 1
      (0x5B :: (utf8Bytes (renderItems (ids.map .str)) ++ [0x5D, 0x7D])) =
        .ok (.arr (ids.map .str), [0x7D]) := by
    rw [show m + 2 * ids.length + 4 = (m + 2 * ids.length + 3) + 1 by omega, readValue,
      skipBlanks_of_not_blank (by decide)]
    simpa [maxDepth] using harr
  have hobj := readFields_member (m + 2 * ids.length + 4) 1 [] "object_ids" hval (by decide)
  rw [readJson, hm, utf8Bytes_cleanupDoc, show m + 2 * ids.length + 7 =
      (m + 2 * ids.length + 6) + 1 by omega, readValue, skipBlanks_of_not_blank (by decide)]
  simp only [show ¬ (0 ≥ maxDepth) by decide, if_false, if_true]
  rw [show m + 2 * ids.length + 6 = (m + 2 * ids.length + 5) + 1 by omega, readObject_quote, hobj]
  rfl

theorem objectIds_cleanupDoc (ids : List String) :
    TaskPayload.objectIds (cleanupDoc ids).render = .ok ids := by
  simp [TaskPayload.objectIds, decodeRecordText, readJson_cleanupDoc, decodeRecord, ruleFor,
    decodeTexts_strings, Except.map, bind, Except.bind, pure, Except.pure]

end ServiceM

namespace Task

def cleanupIds (t : Task) : List String :=
  match TaskPayload.objectIds t.payload with
  | .ok ids => ids
  | .error _ => []

def Owes (t : Task) (o : String) : Prop :=
  t.kind = objectCleanupTask ∧ (t.status = .pending ∨ t.status = .running) ∧ o ∈ t.cleanupIds

theorem cleanupIds_of_payload {t : Task} {ids : List String}
    (h : t.payload = (ServiceM.cleanupDoc ids).render) : t.cleanupIds = ids := by
  rw [cleanupIds, h, ServiceM.objectIds_cleanupDoc]

end Task

namespace BlobStores

variable {b : BlobStores} {j o k : String}

def Holds (b : BlobStores) (j o : String) : Prop :=
  ∃ ks, (j, ks) ∈ b.stores ∧ o ∈ ks

@[simp] theorem holds_eraseEverywhere : (b.eraseEverywhere k).Holds j o ↔ b.Holds j o ∧ o ≠ k := by
  simp only [Holds, eraseEverywhere, List.mem_map, Prod.mk.injEq, Prod.exists]
  constructor
  · rintro ⟨ks, ⟨j', ks', hmem, rfl, rfl⟩, ho⟩
    simp only [List.mem_filter, bne_iff_ne, ne_eq] at ho
    exact ⟨⟨ks', hmem, ho.1⟩, ho.2⟩
  · rintro ⟨⟨ks, hmem, ho⟩, hne⟩
    exact ⟨_, ⟨j, ks, hmem, rfl, rfl⟩, by simp [ho, hne]⟩

theorem holds_foldl_eraseEverywhere (ks : List String) :
    (ks.foldl eraseEverywhere b).Holds j o ↔ b.Holds j o ∧ o ∉ ks := by
  induction ks generalizing b with
  | nil => simp
  | cons k ks ih =>
    rw [List.foldl_cons, ih, holds_eraseEverywhere, List.mem_cons, not_or, and_assoc]

end BlobStores

namespace Store

theorem mem_addNew {held ids : List String} {x : String} :
    x ∈ addNew held ids ↔ x ∈ held ∨ x ∈ ids := by
  induction ids generalizing held with
  | nil => simp
  | cons i ids ih =>
    rw [addNew_cons, ih]
    by_cases hi : held.contains i = true
    · have : i ∈ held := by simpa using hi
      simp only [hi, if_true, List.mem_cons]
      constructor
      · rintro (h | h)
        · exact .inl h
        · exact .inr (.inr h)
      · rintro (h | rfl | h)
        · exact .inl h
        · exact .inl this
        · exact .inr h
    · simp only [hi, Bool.false_eq_true, if_false, List.mem_append, List.mem_cons]
      tauto

end Store

def Service.clearObjects (s : Service) (ids : List String) : Service :=
  { s with blobs := (ids.filter (s.store.countReferences · = 0)).foldl BlobStores.eraseEverywhere s.blobs }

namespace Service

variable {s : Service} {ids : List String} {j o : String}

@[simp] theorem clearObjects_store : (s.clearObjects ids).store = s.store := rfl
@[simp] theorem clearObjects_queue : (s.clearObjects ids).queue = s.queue := rfl

theorem holds_clearObjects :
    (s.clearObjects ids).blobs.Holds j o ↔
      s.blobs.Holds j o ∧ (o ∈ ids → s.store.countReferences o ≠ 0) := by
  simp only [clearObjects, BlobStores.holds_foldl_eraseEverywhere, List.mem_filter,
    decide_eq_true_eq, not_and]

theorem clearObjects_cons (o : String) (ids : List String) :
    (s.clearObjects [o]).clearObjects ids = s.clearObjects (o :: ids) := by
  by_cases hz : s.store.countReferences o = 0
  · simp [clearObjects, hz]
  · simp [clearObjects, hz]

theorem clearObjects_settles (ho : o ∈ ids) :
    (∃ seg ∈ s.store.segments, seg.object = o) ∨ ∀ j, ¬ (s.clearObjects ids).blobs.Holds j o := by
  by_cases hz : s.store.countReferences o = 0
  · exact .inr fun j h => (holds_clearObjects.1 h).2 ho hz
  · exact .inl (Store.exists_of_countReferences_ne_zero hz)

end Service

namespace ServiceM

open Service

theorem runOn_cleanObject (o : String) {s : Service} (hc : s.outages.countReferences = false) :
    (cleanObject o).runOn s = (.ok (.ok none), s.clearObjects [o]) := by
  simp only [cleanObject, countReferences, runOn_bind, runOn_tryCatch, runOn_map, runOn_get, hc,
    Bool.false_eq_true, if_false, runOn_pure]
  by_cases hz : s.store.countReferences o = 0
  · simp [hz, clearObjects, runOn_map]
  · simp [hz, clearObjects]

theorem runOn_filterMapM_cleanObject (ids : List String) {s : Service}
    (hc : s.outages.countReferences = false) :
    (ids.filterMapM cleanObject).runOn s = (.ok (.ok []), s.clearObjects ids) := by
  induction ids generalizing s with
  | nil => rfl
  | cons o ids ih =>
    rw [List.filterMapM_cons, runOn_bind, runOn_cleanObject o hc]
    dsimp only
    rw [ih (s := s.clearObjects [o]) hc, clearObjects_cons]

/-- A cleanup task's run removes the objects it lists that no segment holds, and changes nothing
else; a payload that cannot be read lists none. -/
theorem state_handleObjectCleanup (t : Task) {s : Service}
    (hc : s.outages.countReferences = false) :
    ((handleObjectCleanup t.id t.payload).runOn s).2 = s.clearObjects t.cleanupIds := by
  simp only [handleObjectCleanup, Task.cleanupIds]
  rcases TaskPayload.objectIds t.payload with e | ids
  · rfl
  · simp only [runOn_bind, runOn_pure, runOn_filterMapM_cleanObject ids hc, List.isEmpty_nil,
      Bool.not_true, Bool.false_eq_true, if_false]

end ServiceM

namespace Ledger

variable {g : Ledger} {o : String}

/-- Object `o` is accounted for in `g`: a stored segment holds it, no blob store holds it, or a
cleanup task still owes its removal. -/
def Accounted (g : Ledger) (o : String) : Prop :=
  (∃ seg ∈ g.segments, seg.object = o) ∨ (∀ j, ¬ g.blobs.Holds j o) ∨ ∃ t ∈ g.tasks, t.Owes o

/-- Replacing the records with `t`'s id by `t` keeps every object accounted for, when each record
replaced that owed an object leaves it owed by `t` or accounted for otherwise. -/
theorem Accounted.replace {t : Task}
    (hrec : ∀ u ∈ g.tasks, u.id = t.id → ∀ o, u.Owes o →
      t.Owes o ∨ (∃ seg ∈ g.segments, seg.object = o) ∨ ∀ j, ¬ g.blobs.Holds j o)
    (ho : g.Accounted o) :
    { g with tasks := g.tasks.map fun (u : Task) => if u.id == t.id then t else u }.Accounted o := by
  rcases ho with hseg | hnone | ⟨u, hu, huo⟩
  · exact .inl hseg
  · exact .inr (.inl hnone)
  by_cases hid : u.id = t.id
  · -- the record owing `o` is replaced, and what it owed is owed by `t` or accounted for
    have ht : t ∈ g.tasks.map fun (u : Task) => if u.id == t.id then t else u :=
      List.mem_map.2 ⟨u, hu, by simp [hid]⟩
    rcases hrec u hu hid o huo with hto | hseg | hnone
    · exact .inr (.inr ⟨t, ht, hto⟩)
    · exact .inl hseg
    · exact .inr (.inl hnone)
  · exact .inr (.inr ⟨u, List.mem_map.2 ⟨u, hu, by simp [hid]⟩, huo⟩)

end Ledger

def Service.Handed (s s' : Service) (o : String) : Prop :=
  ∃ u ∈ s'.accepted.drop s.accepted.length, u.kind = objectCleanupTask ∧ o ∈ u.cleanupIds

namespace Ledger

variable {s s' : Service} {o : String}

/-- A step that fed the queue keeps every object accounted for, when each segment it dropped left
its object to a segment still stored or to a cleanup task it queued. -/
theorem Feeds.accounted (h : s.ledger.Feeds s')
    (hseg : ∀ seg ∈ s.store.segments,
      (∃ seg' ∈ s'.store.segments, seg'.object = seg.object) ∨ s.Handed s' seg.object)
    (ho : s.ledger.Accounted o) : s'.ledger.Accounted o := by
  obtain ⟨hb, -, hq, hpend, -⟩ := h
  simp only [Service.ledger_blobs, Service.ledger_accepted, Service.ledger_tasks] at hb hq hpend
  rcases ho with ⟨seg, hs, rfl⟩ | hnone | ⟨t, ht, hto⟩
  · rcases hseg seg hs with hkept | ⟨u, hu, hk, hmem⟩
    · exact .inl hkept
    · -- the cleanup task it queued is held, pending, behind the tasks held before
      have hu' : u ∈ s'.queue.tasks := by rw [hq]; exact List.mem_append_right _ hu
      exact .inr (.inr ⟨u, hu', hk, .inl (hpend u hu), hmem⟩)
  · exact .inr (.inl (by simpa [hb] using hnone))
  · have ht' : t ∈ s'.queue.tasks := by rw [hq]; exact List.mem_append_left _ ht
    exact .inr (.inr ⟨t, ht', hto⟩)

theorem Feeds.accounted_of_objects (h : s.ledger.Feeds s')
    (hobj : ∀ seg ∈ s.store.segments, ∃ seg' ∈ s'.store.segments, seg'.object = seg.object)
    (ho : s.ledger.Accounted o) : s'.ledger.Accounted o :=
  h.accounted (fun seg hs => .inl (hobj seg hs)) ho

end Ledger

namespace Service

variable {s : Service} {ids : List String} {o : String}

theorem Accounted.clearObjects (ho : s.ledger.Accounted o) : (s.clearObjects ids).ledger.Accounted o := by
  rcases ho with hseg | hnone | howed
  · exact .inl hseg
  · exact .inr (.inl fun j h => hnone j (holds_clearObjects.1 h).1)
  · exact .inr (.inr howed)

end Service

end MediaTimeline
