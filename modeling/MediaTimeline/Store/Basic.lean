import MediaTimeline.Segment
import MediaTimeline.Flow
import MediaTimeline.Deletion.Request
import MediaTimeline.Fault

/-! The memory store: segments in two B-trees, flows and delete requests. -/

namespace MediaTimeline

def SegmentKey.before (a b : SegmentKey) : Bool :=
  decide (a.flow < b.flow) || (a.flow == b.flow && decide (a.stop < b.stop))

/-- A segment's place in the object index: its object, then its key. -/
structure ObjectKey where
  object : String
  key : SegmentKey
deriving DecidableEq, Inhabited

def ObjectKey.before (a b : ObjectKey) : Bool :=
  decide (a.object < b.object) || (a.object == b.object && a.key.before b.key)

def Segment.objectKey (s : Segment) : ObjectKey := ⟨s.object, s.key⟩

@[simp] theorem Segment.objectKey_object (s : Segment) : s.objectKey.object = s.object := rfl

@[simp] theorem Segment.objectKey_key (s : Segment) : s.objectKey.key = s.key := rfl

namespace SegmentKey

variable {a b c : SegmentKey}

theorem string_eq_of_not_lt {x y : String} (h₁ : ¬ x < y) (h₂ : ¬ y < x) : x = y :=
  String.le_antisymm (String.not_lt.1 h₂) (String.not_lt.1 h₁)

theorem before_iff : a.before b ↔ a.flow < b.flow ∨ (a.flow = b.flow ∧ a.stop < b.stop) := by
  simp [before]

@[simp] theorem before_irrefl (a : SegmentKey) : a.before a = false := by
  simp only [before, String.lt_irrefl, decide_false, BEq.rfl, Int.lt_irrefl, Bool.and_false,
    Bool.or_self]

theorem before_trans (h₁ : a.before b) (h₂ : b.before c) : a.before c := by
  rw [before_iff] at *
  rcases h₁ with h₁ | ⟨h₁, h₁'⟩ <;> rcases h₂ with h₂ | ⟨h₂, h₂'⟩
  · exact .inl (String.lt_trans h₁ h₂)
  · exact .inl (h₂ ▸ h₁)
  · exact .inl (h₁ ▸ h₂)
  · exact .inr ⟨h₁.trans h₂, by omega⟩

theorem before_or_before (h : a ≠ b) : a.before b ∨ b.before a := by
  obtain ⟨af, as⟩ := a
  obtain ⟨bf, bs⟩ := b
  simp only [before_iff]
  by_cases hab : af < bf
  · exact .inl (.inl hab)
  by_cases hba : bf < af
  · exact .inr (.inl hba)
  obtain rfl := string_eq_of_not_lt hab hba
  have hs : as ≠ bs := fun e => h (e ▸ rfl)
  rcases Int.lt_or_gt_of_ne hs with h' | h'
  · exact .inl (.inr ⟨rfl, h'⟩)
  · exact .inr (.inr ⟨rfl, h'⟩)

end SegmentKey

namespace ObjectKey

variable {a b c : ObjectKey}

theorem before_iff :
    a.before b ↔ a.object < b.object ∨ (a.object = b.object ∧ a.key.before b.key) := by
  simp [before]

@[simp] theorem before_irrefl (a : ObjectKey) : a.before a = false := by
  simp only [before, String.lt_irrefl, decide_false, BEq.rfl, SegmentKey.before_irrefl,
    Bool.and_false, Bool.or_self]

theorem before_trans (h₁ : a.before b) (h₂ : b.before c) : a.before c := by
  rw [before_iff] at *
  rcases h₁ with h₁ | ⟨h₁, h₁'⟩ <;> rcases h₂ with h₂ | ⟨h₂, h₂'⟩
  · exact .inl (String.lt_trans h₁ h₂)
  · exact .inl (h₂ ▸ h₁)
  · exact .inl (h₁ ▸ h₂)
  · exact .inr ⟨h₁.trans h₂, SegmentKey.before_trans h₁' h₂'⟩

theorem before_or_before (h : a ≠ b) : a.before b ∨ b.before a := by
  obtain ⟨ao, ak⟩ := a
  obtain ⟨bo, bk⟩ := b
  simp only [before_iff]
  by_cases hab : ao < bo
  · exact .inl (.inl hab)
  by_cases hba : bo < ao
  · exact .inr (.inl hba)
  obtain rfl := SegmentKey.string_eq_of_not_lt hab hba
  have hk : ak ≠ bk := fun e => h (e ▸ rfl)
  rcases SegmentKey.before_or_before hk with h' | h'
  · exact .inl (.inr ⟨rfl, h'⟩)
  · exact .inr (.inr ⟨rfl, h'⟩)

end ObjectKey

namespace Store

section Tree

variable {κ : Type} [DecidableEq κ] (key : Segment → κ) (lt : κ → κ → Bool)

/-- `ReplaceOrInsert`: the item takes the place of the one with its key, or goes in before the
first item with a later key. -/
def place (s : Segment) : List Segment → List Segment
  | [] => [s]
  | t :: ts =>
    if key s == key t then s :: ts
    else if lt (key s) (key t) then s :: t :: ts
    else t :: place s ts

def ascend (pivot : κ) (l : List Segment) : List Segment :=
  l.dropWhile fun t => lt (key t) pivot

def descend (pivot : κ) (l : List Segment) : List Segment :=
  (l.takeWhile fun t => !lt pivot (key t)).reverse

variable {key lt}
variable (irrefl : ∀ a, lt a a = false) (trans : ∀ {a b c}, lt a b → lt b c → lt a c)
  (total : ∀ {a b}, a ≠ b → lt a b ∨ lt b a)
variable {l : List Segment} {s x : Segment}

omit [DecidableEq κ] in
include irrefl in
theorem eq_of_key_eq (h : l.Pairwise fun a b => lt (key a) (key b)) {t u : Segment}
    (ht : t ∈ l) (hu : u ∈ l) (hk : key t = key u) : t = u := by
  induction l with
  | nil => cases ht
  | cons a l ih =>
    rw [List.pairwise_cons] at h
    rcases List.mem_cons.1 ht with rfl | ht' <;> rcases List.mem_cons.1 hu with rfl | hu'
    · rfl
    · have := h.1 u hu'
      rw [← hk, irrefl] at this
      cases this
    · have := h.1 t ht'
      rw [hk, irrefl] at this
      cases this
    · exact ih h.2 ht' hu'

theorem mem_of_mem_place (hx : x ∈ place key lt s l) : x = s ∨ x ∈ l := by
  induction l with
  | nil => simpa [place] using hx
  | cons t ts ih =>
    simp only [place] at hx
    split at hx
    · rcases List.mem_cons.1 hx with rfl | hx
      · exact .inl rfl
      · exact .inr (List.mem_cons_of_mem t hx)
    split at hx
    · rcases List.mem_cons.1 hx with rfl | hx
      · exact .inl rfl
      · exact .inr hx
    · rcases List.mem_cons.1 hx with rfl | hx
      · exact .inr List.mem_cons_self
      · rcases ih hx with rfl | hx
        · exact .inl rfl
        · exact .inr (List.mem_cons_of_mem t hx)

include trans total in
theorem pairwise_place (h : l.Pairwise fun a b => lt (key a) (key b)) :
    (place key lt s l).Pairwise fun a b => lt (key a) (key b) := by
  induction l with
  | nil => exact List.pairwise_singleton _ s
  | cons t ts ih =>
    rw [List.pairwise_cons] at h
    simp only [place]
    split
    · -- `s` takes the place of `t`, which came before the rest
      rename_i he
      rw [beq_iff_eq] at he
      exact List.pairwise_cons.2 ⟨fun u hu => he ▸ h.1 u hu, h.2⟩
    rename_i he
    split
    · rename_i hb
      refine List.pairwise_cons.2 ⟨fun u hu => ?_, List.pairwise_cons.2 h⟩
      rcases List.mem_cons.1 hu with rfl | hu
      · exact hb
      · exact trans hb (h.1 u hu)
    · rename_i hb
      have hts : lt (key t) (key s) := by
        rcases total (a := key s) (b := key t) (by simpa using he) with h' | h'
        · exact absurd h' hb
        · exact h'
      refine List.pairwise_cons.2 ⟨fun u hu => ?_, ih h.2⟩
      rcases mem_of_mem_place hu with rfl | hu
      · exact hts
      · exact h.1 u hu

include irrefl trans in
theorem perm_place (h : l.Pairwise fun a b => lt (key a) (key b)) :
    (place key lt s l).Perm (s :: l.filter fun t => key t != key s) := by
  induction l with
  | nil => simp [place]
  | cons t ts ih =>
    rw [List.pairwise_cons] at h
    have hrest : ∀ u ∈ ts, key u ≠ key t := fun u hu he => by
      have := h.1 u hu
      rw [he, irrefl] at this
      cases this
    simp only [place]
    split
    · rename_i he
      rw [beq_iff_eq] at he
      have hkeep : ts.filter (fun u => key u != key s) = ts :=
        List.filter_eq_self.2 fun u hu => by simpa [← he] using hrest u hu
      simp [← he, hkeep]
    rename_i he
    split
    · rename_i hb
      have hts : key t ≠ key s := fun e => by
        rw [e, irrefl] at hb
        cases hb
      have hkeep : ts.filter (fun u => key u != key s) = ts :=
        List.filter_eq_self.2 fun u hu => by
          have hsu := trans hb (h.1 u hu)
          simp only [bne_iff_ne, ne_eq]
          intro e
          rw [e, irrefl] at hsu
          cases hsu
      simp [hts, hkeep]
    · have hts : key t ≠ key s := fun e => he (by simp [e])
      simp only [List.filter_cons, bne_iff_ne, ne_eq, hts, not_false_eq_true, if_true]
      exact ((ih h.2).cons t).trans (List.Perm.swap s t _)

end Tree

def Mirrors (byObject segments : List Segment) : Prop :=
  byObject.Perm segments ∧ byObject.Pairwise fun a b => a.objectKey.before b.objectKey

instance (byObject segments : List Segment) : Decidable (Mirrors byObject segments) :=
  inferInstanceAs (Decidable (_ ∧ _))

/-- The object index without the entry of the segment that has key `k` in the primary tree. -/
def dropEntry (segments byObject : List Segment) (k : SegmentKey) : List Segment :=
  match segments.find? (·.key == k) with
  | some old => byObject.filter (·.objectKey != old.objectKey)
  | none => byObject

section Agreement

variable {segs objs : List Segment} {s x : Segment}

theorem key_eq_of_objectKey_eq (h : s.objectKey = x.objectKey) : s.key = x.key := by
  simp only [Segment.objectKey, ObjectKey.mk.injEq] at h
  exact h.2

theorem objectKey_eq_iff (hord : segs.Pairwise fun a b => a.key.before b.key) {t : Segment}
    (ht : t ∈ segs) (hx : x ∈ segs) : t.objectKey = x.objectKey ↔ t.key = x.key :=
  ⟨key_eq_of_objectKey_eq, fun hk => by rw [eq_of_key_eq SegmentKey.before_irrefl hord ht hx hk]⟩

theorem Mirrors.dropEntry (hord : segs.Pairwise fun a b => a.key.before b.key)
    (hm : Mirrors objs segs) (k : SegmentKey) :
    Mirrors (Store.dropEntry segs objs k) (segs.filter (·.key != k)) := by
  unfold Store.dropEntry
  split
  · next old hf =>
    have hk : old.key = k := by simpa using List.find?_some hf
    have hold := List.mem_of_find?_eq_some hf
    have hsame : segs.filter (·.objectKey != old.objectKey) = segs.filter (·.key != k) :=
      List.filter_congr fun t ht => by
        rw [Bool.eq_iff_iff, bne_iff_ne, bne_iff_ne, ne_eq, ne_eq, objectKey_eq_iff hord ht hold, hk]
    exact ⟨hsame ▸ hm.1.filter _, hm.2.filter _⟩
  · next hf =>
    rw [List.filter_eq_self.2 fun t ht => by simpa using List.find?_eq_none.1 hf t ht]
    exact hm

/-- Placing a segment in both trees, once the index has dropped the entry of its key, keeps them
in agreement. -/
theorem Mirrors.place (hord : segs.Pairwise fun a b => a.key.before b.key)
    (hm : Mirrors objs (segs.filter (·.key != s.key))) :
    Mirrors (Store.place Segment.objectKey ObjectKey.before s objs)
      (Store.place Segment.key SegmentKey.before s segs) := by
  have hkeep : objs.filter (·.objectKey != s.objectKey) = objs := List.filter_eq_self.2 fun t ht => by
    have ht' := (List.mem_filter.1 (hm.1.subset ht)).2
    simp only [bne_iff_ne, ne_eq] at ht' ⊢
    exact fun he => ht' (key_eq_of_objectKey_eq he)
  refine ⟨?_, pairwise_place @ObjectKey.before_trans @ObjectKey.before_or_before hm.2⟩
  refine (perm_place ObjectKey.before_irrefl @ObjectKey.before_trans hm.2).trans ?_
  rw [hkeep]
  exact (hm.1.cons s).trans (perm_place SegmentKey.before_irrefl @SegmentKey.before_trans hord).symm

end Agreement

end Store

/-- The records the store holds. -/
structure Store where
  segments : List Segment := []
  byObject : List Segment := []
  flows : List Flow := []
  requests : List DeleteRequest := []
  ordered : segments.Pairwise (fun a b => a.key.before b.key) := by decide
  mirrored : Store.Mirrors byObject segments := by decide

attribute [ext] Store

instance : Inhabited Store := ⟨{}⟩

namespace Store

def placeSegment (s : Segment) (l : List Segment) : List Segment :=
  place Segment.key SegmentKey.before s l

/-- Stores a segment: the primary tree takes it in place of the segment with its key, whose
entry the object index drops before it takes the new one. -/
def putSegment (st : Store) (s : Segment) : Store where
  segments := placeSegment s st.segments
  byObject := place Segment.objectKey ObjectKey.before s (dropEntry st.segments st.byObject s.key)
  flows := st.flows
  requests := st.requests
  ordered := pairwise_place @SegmentKey.before_trans @SegmentKey.before_or_before st.ordered
  mirrored := (st.mirrored.dropEntry st.ordered s.key).place st.ordered

def getSegment (st : Store) (flow : String) (stop : Int) : Except Fault Segment :=
  match st.segments.find? (·.key == ⟨flow, stop⟩) with
  | some s => .ok s
  | none => .error (.missing .segment)

/-- Drops the segment with key `k` from the primary tree, and its entry from the object index. -/
def dropKey (st : Store) (k : SegmentKey) : Store where
  segments := st.segments.filter (·.key != k)
  byObject := dropEntry st.segments st.byObject k
  flows := st.flows
  requests := st.requests
  ordered := st.ordered.filter _
  mirrored := st.mirrored.dropEntry st.ordered k

def deleteSegment (st : Store) (flow : String) (stop : Int) : Except Fault (Segment × Store) :=
  (st.getSegment flow stop).map fun s => (s, st.dropKey ⟨flow, stop⟩)

def addNew (held ids : List String) : List String :=
  ids.foldl (fun acc i => if acc.contains i then acc else acc ++ [i]) held

def addIds (k : SegmentKey) (ids : List String) (s : Segment) : Segment :=
  if s.key == k then { s with storageIds := addNew s.storageIds ids } else s

@[simp] theorem key_addIds (k : SegmentKey) (ids : List String) (s : Segment) :
    (addIds k ids s).key = s.key := by
  unfold addIds
  split <;> rfl

@[simp] theorem objectKey_addIds (k : SegmentKey) (ids : List String) (s : Segment) :
    (addIds k ids s).objectKey = s.objectKey := by
  unfold addIds
  split <;> rfl

def withIds (st : Store) (k : SegmentKey) (ids : List String) : Store where
  segments := st.segments.map (addIds k ids)
  byObject := st.byObject.map (addIds k ids)
  flows := st.flows
  requests := st.requests
  ordered := List.pairwise_map.2 (st.ordered.imp fun h => by simpa using h)
  mirrored := ⟨st.mirrored.1.map _, List.pairwise_map.2 (st.mirrored.2.imp fun h => by simpa using h)⟩

def appendStorageIds (st : Store) (flow : String) (stop : Int) (ids : List String) :
    Except Fault Store :=
  (st.getSegment flow stop).map fun _ => st.withIds ⟨flow, stop⟩ ids

/-- How many segments, in any flow, are held by `object`: the object index is walked from the
object's first possible key while its entries are the object's. -/
def countReferences (st : Store) (object : String) : Nat :=
  ((ascend Segment.objectKey ObjectKey.before ⟨object, ⟨"", int64Min⟩⟩ st.byObject).takeWhile
    (·.object == object)).length

def putFlow (st : Store) (f : Flow) : Store :=
  { st with flows := st.flows.filter (·.id != f.id) ++ [f] }

def getFlow (st : Store) (id : String) : Except Fault Flow :=
  match st.flows.find? (·.id == id) with
  | some f => .ok f
  | none => .error (.missing .flow)

def deleteFlow (st : Store) (id : String) : Except Fault Store :=
  (st.getFlow id).map fun _ => { st with flows := st.flows.filter (·.id != id) }

def touchFlow (st : Store) (id : String) (time : Instant) : Except Fault Store :=
  (st.getFlow id).map fun _ =>
    { st with flows := st.flows.map fun f =>
        if f.id == id then { f with segmentsUpdated := some time } else f }

def putRequest (st : Store) (r : DeleteRequest) : Store :=
  { st with requests := st.requests.filter (·.id != r.id) ++ [r] }

def getRequest (st : Store) (id : String) : Except Fault DeleteRequest :=
  match st.requests.find? (·.id == id) with
  | some r => .ok r
  | none => .error (.missing .request)

def requestBefore (a b : DeleteRequest) : Bool :=
  a.created.before b.created || (a.created.same b.created && decide (a.id ≤ b.id))

def listRequests (st : Store) (flow : String) : List DeleteRequest :=
  (st.requests.filter fun r => flow.isEmpty || r.flow == flow).mergeSort requestBefore

def deleteRequest (st : Store) (id : String) : Except Fault Store :=
  (st.getRequest id).map fun _ => { st with requests := st.requests.filter (·.id != id) }

end Store

end MediaTimeline
