import Mathlib
import MediaTimeline.Proofs.JsonRoundTrip
import MediaTimeline.Proofs.RangeText
import MediaTimeline.Sql.Store

/-! Segment documents read back. -/

namespace MediaTimeline

/-- A segment the SQL store can keep: its range in normal form and its counts within 64 bits. -/
structure Segment.Storable (s : Segment) : Prop where
  range : s.range.Normal
  sampleOffset : ∀ n ∈ s.sampleOffset, IsInt64 n
  sampleCount : ∀ n ∈ s.sampleCount, IsInt64 n
  keyFrameCount : ∀ n ∈ s.keyFrameCount, IsInt64 n

namespace Segment

theorem toDoc_eq (s : Segment) :
    s.toDoc = JsonValue.obj ([("object_id", JsonValue.str s.object),
        ("timerange", JsonValue.str s.range.toText)] ++
      (if s.tsOffset.isEmpty then [] else [("ts_offset", JsonValue.str s.tsOffset)]) ++
      (if s.lastDuration.isEmpty then [] else [("last_duration", JsonValue.str s.lastDuration)]) ++
      s.sampleOffset.toList.map (fun n => ("sample_offset", JsonValue.int n)) ++
      s.sampleCount.toList.map (fun n => ("sample_count", JsonValue.int n)) ++
      s.keyFrameCount.toList.map (fun n => ("key_frame_count", JsonValue.int n)) ++
      (if s.storageIds.isEmpty then [] else
        [("storage_ids", JsonValue.arr (s.storageIds.map JsonValue.str))])) := by
  unfold toDoc
  cases s.sampleOffset <;> cases s.sampleCount <;> cases s.keyFrameCount <;> rfl

theorem plain_toDoc (s : Segment) : s.toDoc.Plain 2 := by
  rw [toDoc_eq]
  refine .obj ?_
  simp only [List.forall_mem_append]
  refine ⟨⟨⟨⟨⟨⟨?_, ?_⟩, ?_⟩, ?_⟩, ?_⟩, ?_⟩, ?_⟩
  · simp [JsonValue.Plain.str]
  · split <;> simp [JsonValue.Plain.str]
  · split <;> simp [JsonValue.Plain.str]
  all_goals try (simp only [List.mem_map, Option.mem_toList]; rintro _ ⟨n, -, rfl⟩; exact .int n)
  split
  · simp
  · simp only [List.mem_singleton, forall_eq]
    exact .arr fun v hv => by
      obtain ⟨id, -, rfl⟩ := List.mem_map.1 hv
      exact .str id

end Segment

namespace Sql

open Json

/-! Decoding documents member by member. -/

theorem literalInt_bounds {lit : String} {lo hi n : Int} (h : literalInt lit lo hi = some n) :
    lo ≤ n ∧ n ≤ hi := by
  unfold literalInt at h
  obtain ⟨m, -, hm⟩ := Option.bind_eq_some_iff.1 h
  split_ifs at hm with hb
  cases hm
  exact hb

section Decode

variable {α : Type} (t : String) (fs : List (DocField α)) (p : List PathStep)

theorem decodeDoc_append (a : α) (m₁ m₂ : List (String × JsonValue)) :
    decodeDoc t fs p a (.obj (m₁ ++ m₂)) =
      decodeDoc t fs p a (.obj m₁) >>= fun b => decodeDoc t fs p b (.obj m₂) := by
  simp only [decodeDoc, List.foldlM_append]

theorem decodeDoc_single (a : α) (k : String) (v : JsonValue) {f : DocField α}
    (hf : docFieldFor fs k = some f) :
    decodeDoc t fs p a (.obj [(k, v)]) = f.take (p ++ [PathStep.member k]) v a := by
  simp [decodeDoc, hf]

theorem mem_of_docFieldFor {k : String} {f : DocField α} (h : docFieldFor fs k = some f) : f ∈ fs := by
  unfold docFieldFor at h
  split at h
  · next hfind =>
    cases h
    exact List.mem_of_find?_eq_some hfind
  · exact List.mem_of_find?_eq_some h

theorem decodeDoc_keeps {P : α → Prop}
    (hkeep : ∀ f ∈ fs, ∀ path v a a', f.take path v a = .ok a' → P a → P a') {a a' : α}
    {v : JsonValue} (h : decodeDoc t fs p a v = .ok a') (ha : P a) : P a' := by
  cases v with
  | obj members =>
    induction members generalizing a with
    | nil =>
      cases h
      exact ha
    | cons m ms ih =>
      obtain ⟨k, w⟩ := m
      rw [show (k, w) :: ms = [(k, w)] ++ ms from rfl, decodeDoc_append] at h
      cases hb : decodeDoc t fs p a (.obj [(k, w)]) with
      | error e =>
        rw [hb] at h
        cases h
      | ok b =>
        rw [hb] at h
        refine ih ?_ h
        cases hf : docFieldFor fs k with
        | none =>
          simp only [decodeDoc, List.foldlM_cons, List.foldlM_nil, hf] at hb
          cases hb
          exact ha
        | some f =>
          rw [decodeDoc_single _ _ _ _ _ _ hf] at hb
          exact hkeep f (mem_of_docFieldFor fs hf) _ _ _ _ hb ha
  | null =>
    cases h
    exact ha
  | _ => cases h

/-! What each kind of field can do to the value decoded so far. -/

variable {P : α → Prop} {record name : String} {path : List PathStep} {v : JsonValue} {a a' : α}

theorem textField_keeps {set : String → α → α}
    (h : (textField record name set).take path v a = .ok a') (hset : ∀ s a, P a → P (set s a))
    (ha : P a) : P a' := by
  cases v <;> simp [textField, namedTextField, mismatch] at h
  all_goals first
    | (subst h; exact hset _ _ ha)
    | (subst h; exact ha)

theorem textsField_keeps {set : List String → α → α}
    (h : (textsField record name set).take path v a = .ok a') (hset : ∀ l a, P a → P (set l a))
    (ha : P a) : P a' := by
  cases v <;> simp [textsField, mismatch, Except.map] at h
  · subst h
    exact hset _ _ ha
  · split at h
    · cases h
    · cases h
      exact hset _ _ ha

theorem countField_keeps {set : Option Int → α → α}
    (h : (countField record name set).take path v a = .ok a')
    (hset : ∀ o a, (∀ n ∈ o, IsInt64 n) → P a → P (set o a)) (ha : P a) : P a' := by
  cases v <;> simp [countField, mismatch] at h
  · subst h
    exact hset none _ (by simp) ha
  · split at h
    · next n hn =>
      cases h
      exact hset _ _ (fun m hm => by cases hm; exact literalInt_bounds hn) ha
    · cases h

theorem rangeField_keeps {set : TimeRange → α → α}
    (h : (rangeField record name set).take path v a = .ok a')
    (hset : ∀ r a, r.Normal → P a → P (set r a)) (ha : P a) : P a' := by
  cases v <;> simp [rangeField] at h
  · subst h
    exact ha
  · split at h
    · next r hr =>
      cases h
      exact hset _ _ (TimeRange.normal_of_parse hr) ha
    · cases h

end Decode

theorem arrayTexts_strs (record : String) (path : List PathStep) (ids : List String) :
    arrayTexts record path (ids.map .str) = .ok ids := by
  have hstrs : ∀ {f : JsonValue × Nat → Except Fault String}, (∀ s i, f (.str s, i) = .ok s) →
      ∀ (ids : List String) (n : Nat), ((ids.map JsonValue.str).zipIdx n).mapM f = .ok ids := by
    intro f hf ids
    induction ids with
    | nil => intro n; rfl
    | cons a rest ih =>
      intro n
      simp [List.zipIdx_cons, List.mapM_cons, hf, ih (n + 1), bind, Except.bind, pure, Except.pure]
  exact hstrs (fun _ _ => rfl) ids 0

section Pieces

variable (a : Segment)

theorem decodeDoc_text (name : String) {set : String → Segment → Segment}
    (hf : docFieldFor segmentFields name = some (textField "Segment" name set)) (v : String)
    (h : set "" a = a) :
    decodeDoc "types.Segment" segmentFields [] a (.obj (if v.isEmpty then [] else [(name, .str v)])) =
      .ok (set v a) := by
  by_cases hv : v.isEmpty
  · rw [if_pos hv, String.isEmpty_iff.1 hv, h]
    rfl
  · rw [if_neg hv, decodeDoc_single _ _ _ _ _ _ hf]
    rfl

theorem decodeDoc_count (name : String) {set : Option Int → Segment → Segment}
    (hf : docFieldFor segmentFields name = some (countField "Segment" name set)) (o : Option Int)
    (ho : ∀ n ∈ o, IsInt64 n) (h : set none a = a) :
    decodeDoc "types.Segment" segmentFields [] a (.obj (o.toList.map fun n => (name, .int n))) =
      .ok (set o a) := by
  cases o with
  | none =>
    rw [h]
    rfl
  | some n =>
    have hlit : literalInt n.repr (-9223372036854775808) 9223372036854775807 = some n :=
      literalInt_toString (ho n rfl)
    rw [Option.toList_some, List.map_singleton, decodeDoc_single _ _ _ _ _ _ hf]
    simp [countField, JsonValue.int, hlit]

theorem decodeDoc_storageIds (ids : List String) (h : a.storageIds = []) :
    decodeDoc "types.Segment" segmentFields [] a
        (.obj (if ids.isEmpty then [] else [("storage_ids", .arr (ids.map .str))])) =
      .ok { a with storageIds := ids } := by
  by_cases hv : ids.isEmpty
  · rw [if_pos hv, List.isEmpty_iff.1 hv, ← h]
    rfl
  · rw [if_neg hv, decodeDoc_single _ _ _ _ _ _ rfl]
    simp [textsField, arrayTexts_strs, Except.map]

end Pieces

theorem decodeDoc_toDoc (s : Segment) (hs : s.Storable) :
    decodeDoc "types.Segment" segmentFields [] { flow := s.flow, object := "", range := .eternity }
      s.toDoc = .ok { s with start := 0, stop := 0 } := by
  have hhead : ∀ a : Segment, decodeDoc "types.Segment" segmentFields [] a
      (.obj [("object_id", .str s.object), ("timerange", .str s.range.toText)]) =
        .ok { a with object := s.object, range := s.range } := by
    intro a
    simp [decodeDoc, docFieldFor, segmentFields, rangeField, textField, namedTextField,
      TimeRange.parse_toText_of_normal hs.range, bind, Except.bind, pure, Except.pure]
  rw [Segment.toDoc_eq]
  simp only [decodeDoc_append, hhead, bind, Except.bind]
  rw [decodeDoc_text _ _ rfl _ rfl]
  dsimp only
  rw [decodeDoc_text _ _ rfl _ rfl]
  dsimp only
  rw [decodeDoc_count _ _ rfl _ hs.sampleOffset rfl]
  dsimp only
  rw [decodeDoc_count _ _ rfl _ hs.sampleCount rfl]
  dsimp only
  rw [decodeDoc_count _ _ rfl _ hs.keyFrameCount rfl]
  dsimp only
  rw [decodeDoc_storageIds _ _ rfl]

/-- A storable segment written as a row, its keys and object in columns and the rest in its
document, reads back as itself. -/
theorem readSegment_toDoc (s : Segment) (hs : s.Storable) :
    readSegment s.flow s.stop s.start s.object (JsonValue.render s.toDoc) = .ok s := by
  have hjson : readJson (JsonValue.render s.toDoc).toUTF8.toList = .ok s.toDoc :=
    JsonValue.readJson_render (Segment.plain_toDoc s) (by decide)
  simp only [readSegment, readDoc, hjson, decodeDoc_toDoc s hs]
  rfl

/-- Each field of a segment document keeps a segment storable: a range is read in normal form and
a count within 64 bits. -/
theorem segmentFields_keep_storable :
    ∀ f ∈ segmentFields, ∀ path v (a a' : Segment), f.take path v a = .ok a' → a.Storable →
      a'.Storable := by
  intro f hf path v a a' h ha
  simp only [segmentFields, List.mem_cons, List.not_mem_nil, or_false] at hf
  have htext : ∀ (set : String → Segment → Segment), (∀ x y, (set x y).range = y.range ∧
      (set x y).sampleOffset = y.sampleOffset ∧ (set x y).sampleCount = y.sampleCount ∧
      (set x y).keyFrameCount = y.keyFrameCount) → ∀ x y, y.Storable → (set x y).Storable := by
    intro set hs x y hy
    obtain ⟨h1, h2, h3, h4⟩ := hs x y
    exact ⟨h1 ▸ hy.range, h2 ▸ hy.sampleOffset, h3 ▸ hy.sampleCount, h4 ▸ hy.keyFrameCount⟩
  rcases hf with rfl | rfl | rfl | rfl | rfl | rfl | rfl | rfl
  · exact textField_keeps h (htext _ fun _ _ => ⟨rfl, rfl, rfl, rfl⟩) ha
  · exact rangeField_keeps h
      (fun r y hr hy => ⟨hr, hy.sampleOffset, hy.sampleCount, hy.keyFrameCount⟩) ha
  · exact textField_keeps h (htext _ fun _ _ => ⟨rfl, rfl, rfl, rfl⟩) ha
  · exact textField_keeps h (htext _ fun _ _ => ⟨rfl, rfl, rfl, rfl⟩) ha
  · exact countField_keeps h (fun o y ho hy => ⟨hy.range, ho, hy.sampleCount, hy.keyFrameCount⟩) ha
  · exact countField_keeps h (fun o y ho hy => ⟨hy.range, hy.sampleOffset, ho, hy.keyFrameCount⟩) ha
  · exact countField_keeps h (fun o y ho hy => ⟨hy.range, hy.sampleOffset, hy.sampleCount, ho⟩) ha
  · exact textsField_keeps h
      (fun _ y hy => ⟨hy.range, hy.sampleOffset, hy.sampleCount, hy.keyFrameCount⟩) ha

theorem storable_of_readSegment {flow object doc : String} {stop start : Int} {s : Segment}
    (h : readSegment flow stop start object doc = .ok s) :
    s.Storable ∧ s.flow = flow ∧ s.stop = stop ∧ s.start = start ∧ s.object = object := by
  let init : Segment := { flow := flow, object := "", range := .eternity }
  have heternity : TimeRange.eternity.Normal :=
    ⟨by decide, by simp [TimeRange.Representable, TimeRange.eternity]⟩
  have hinit : init.Storable := ⟨heternity, by simp [init], by simp [init], by simp [init]⟩
  unfold readSegment at h
  cases hd : readDoc doc (decodeDoc "types.Segment" segmentFields [] init) with
  | error e => simp [init, hd, Except.mapError, bind, Except.bind] at h
  | ok seg =>
    simp only [init, hd, Except.mapError, bind, Except.bind, pure, Except.pure, Except.ok.injEq] at h
    subst h
    have hseg : seg.Storable := by
      unfold readDoc at hd
      split at hd
      · cases hd
      · exact decodeDoc_keeps _ _ _ segmentFields_keep_storable hd hinit
    exact ⟨⟨hseg.range, hseg.sampleOffset, hseg.sampleCount, hseg.keyFrameCount⟩, rfl, rfl, rfl, rfl⟩

end Sql

end MediaTimeline
