import Mathlib
import MediaTimeline.Proofs.FlowCache

/-! The laws of the cache. -/

namespace MediaTimeline

namespace Cache

variable {α : Type} {c c' : Cache α} {now : Int} {k : String} {v : α} {e : CacheEntry α}
  {p : String × CacheEntry α} {es : List (String × CacheEntry α)}

/-! ### Entry lists -/

theorem lookup_eq_none_iff : es.lookup k = none ↔ k ∉ es.map (·.1) := by
  induction es with
  | nil => simp
  | cons q es ih =>
    by_cases hk : k = q.1
    · subst hk
      simp [List.lookup]
    · have hne : (k == q.1) = false := by simpa using hk
      simp [List.lookup, hne, ih, hk]

theorem lookup_eq_some_iff (h : (es.map (·.1)).Nodup) : es.lookup k = some e ↔ (k, e) ∈ es := by
  induction es with
  | nil => simp
  | cons q es ih =>
    obtain ⟨hq, hes⟩ := List.nodup_cons.1 h
    by_cases hk : k = q.1
    · subst hk
      have hnot : (q.1, e) ∉ es := fun hmem => hq (List.mem_map.2 ⟨_, hmem, rfl⟩)
      simp only [List.lookup, beq_self_eq_true, Option.some.injEq, List.mem_cons, hnot, or_false]
      constructor
      · rintro rfl
        rfl
      · intro h
        rw [← h]
    · have hne : (k == q.1) = false := by simpa using hk
      simp only [List.lookup, hne, ih hes, List.mem_cons]
      exact ⟨.inr, fun h => h.resolve_left fun heq => hk (congrArg (·.1) heq)⟩

/-- With each key held once, dropping the entries under a held entry's key drops that entry
alone. -/
theorem filter_key_of_split {pre post : List (String × CacheEntry α)} (h : (es.map (·.1)).Nodup)
    (hsplit : es = pre ++ p :: post) : es.filter (·.1 != p.1) = pre ++ post := by
  subst hsplit
  rw [List.map_append, List.map_cons] at h
  have hpre : ∀ r ∈ pre, (r.1 != p.1) = true := fun r hr => by
    simpa using fun heq => (List.nodup_append.1 h).2.2 _ (List.mem_map_of_mem hr) _
      (List.mem_cons_self ..) heq
  have hpost : ∀ r ∈ post, (r.1 != p.1) = true := fun r hr => by
    simpa using fun (heq : r.1 = p.1) => (List.nodup_cons.1 (List.nodup_append.1 h).2.1).1
      (heq ▸ List.mem_map.2 ⟨r, hr, rfl⟩)
  simp [List.filter_append, List.filter_eq_self.2 hpre, List.filter_eq_self.2 hpost]

/-! ### The entry written first -/

theorem foldl_older {init : Option (String × Int)} {x : String × Int}
    (h : es.foldl older init = some x) :
    ((∃ e, (x.1, e) ∈ es ∧ e.written = x.2) ∨ init = some x) ∧ (∀ q ∈ es, x.2 ≤ q.2.written) ∧
      ∀ b, init = some b → x.2 ≤ b.2 := by
  induction es generalizing init with
  | nil =>
    rw [List.foldl_nil] at h
    exact ⟨.inr h, by simp, fun b hb => by rw [h] at hb; cases hb; exact le_rfl⟩
  | cons q es ih =>
    obtain ⟨hfrom, hes, hinit⟩ := ih h
    have hstep : older init q = some (q.1, q.2.written) ∨
        (init = older init q ∧ ∃ b, init = some b ∧ b.2 ≤ q.2.written) := by
      unfold older
      rcases init with _ | ⟨k', w⟩
      · exact .inl rfl
      · by_cases hlt : q.2.written < w
        · simp [hlt]
        · exact .inr ⟨by simp [hlt], _, rfl, not_lt.1 hlt⟩
    refine ⟨?_, ?_, ?_⟩
    · rcases hfrom with ⟨e, he, hw⟩ | hx
      · exact .inl ⟨e, List.mem_cons_of_mem _ he, hw⟩
      · rcases hstep with hq | ⟨heq, -⟩
        · rw [hq] at hx
          cases hx
          exact .inl ⟨q.2, List.mem_cons_self .., rfl⟩
        · exact .inr (heq.trans hx)
    · intro q' hq'
      rcases List.mem_cons.1 hq' with rfl | hq'
      · rcases hstep with hq | ⟨heq, b, hb, hbq⟩
        · exact hinit _ hq
        · exact (hinit b (heq ▸ hb)).trans hbq
      · exact hes q' hq'
    · intro b hb
      rcases hstep with hq | ⟨heq, -⟩
      · have hx := hinit _ hq
        rw [hb] at hq
        simp only [older] at hq
        split_ifs at hq with hlt
        · exact hx.trans hlt.le
        · cases hq
          exact hx
      · exact hinit b (heq ▸ hb)

theorem oldest?_spec {x : String × Int} (h : oldest? es = some x) :
    ∃ e, (x.1, e) ∈ es ∧ e.written = x.2 ∧ ∀ q ∈ es, x.2 ≤ q.2.written := by
  obtain ⟨hfrom, hes, -⟩ := foldl_older h
  rcases hfrom with ⟨e, he, hw⟩ | hx
  · exact ⟨e, he, hw, hes⟩
  · cases hx

theorem oldest?_ne_none (h : es ≠ []) : oldest? es ≠ none := by
  obtain ⟨q, rest, rfl⟩ := List.exists_cons_of_ne_nil h
  have hsome : ∀ (l : List (String × CacheEntry α)) (b : String × Int),
      l.foldl older (some b) ≠ none := by
    intro l
    induction l with
    | nil => simp
    | cons r l ih =>
      intro b
      have hstep : ∃ b', older (some b) r = some b' := by
        simp only [older]
        split_ifs
        · exact ⟨_, rfl⟩
        · exact ⟨_, rfl⟩
      obtain ⟨b', hb'⟩ := hstep
      rw [List.foldl_cons, hb']
      exact ih b'
  exact hsome rest _

/-! ### Keys and writes -/

def keys (c : Cache α) : List String := c.entries.map (·.1)

def Keyed (c : Cache α) : Prop := c.keys.Nodup

theorem Keyed.of_sublist (h : c.Keyed) (hsub : c'.entries.Sublist c.entries) : c'.Keyed :=
  (h.sublist (hsub.map _))

theorem set_of_held (hk : k ∈ c.keys) :
    (c.set now k v).entries = c.entries.filter (·.1 != k) ++ [(k, ⟨v, now⟩)] := by
  have hheld : c.entries.any (·.1 == k) = true := by
    obtain ⟨q, hq, rfl⟩ := List.mem_map.1 hk
    exact List.any_eq_true.2 ⟨q, hq, by simp⟩
  simp [set, hheld]

theorem set_of_room (hk : k ∉ c.keys) (hroom : ¬ (0 < c.maxSize ∧ c.maxSize ≤ c.size)) :
    (c.set now k v).entries = c.entries ++ [(k, ⟨v, now⟩)] := by
  have hheld : c.entries.any (·.1 == k) = false := by
    rw [List.any_eq_false]
    exact fun q hq hqk => hk (List.mem_map.2 ⟨q, hq, by simpa using hqk⟩)
  simp only [size] at hroom
  simp [set, hheld, hroom]

theorem set_of_full (hc : c.Keyed) (hk : k ∉ c.keys) (hpos : 0 < c.maxSize) (hfull : c.maxSize ≤ c.size) :
    ∃ pre p post, c.entries = pre ++ p :: post ∧ (∀ q ∈ c.entries, p.2.written ≤ q.2.written) ∧
      (c.set now k v).entries = pre ++ post ++ [(k, ⟨v, now⟩)] := by
  have hheld : c.entries.any (·.1 == k) = false := by
    rw [List.any_eq_false]
    exact fun q hq hqk => hk (List.mem_map.2 ⟨q, hq, by simpa using hqk⟩)
  have hne : c.entries ≠ [] := fun h => by simp [size, h] at hfull; omega
  obtain ⟨x, hx⟩ := Option.ne_none_iff_exists'.1 (oldest?_ne_none hne)
  obtain ⟨e, he, hw, hleast⟩ := oldest?_spec hx
  obtain ⟨pre, post, hsplit⟩ := List.append_of_mem he
  refine ⟨pre, (x.1, e), post, hsplit, fun q hq => hw ▸ hleast q hq, ?_⟩
  have hdrop : dropOldest c.entries = pre ++ post := by
    simp only [dropOldest, hx]
    exact filter_key_of_split hc hsplit
  simp only [size] at hfull
  simp [set, hheld, hpos, hfull, hdrop]

theorem Keyed.set (hc : c.Keyed) : (c.set now k v).Keyed := by
  by_cases hk : k ∈ c.keys
  · have hsub : (c.entries.filter (·.1 != k)).Sublist c.entries := List.filter_sublist
    simp only [Keyed, keys, set_of_held hk, List.map_append, List.map_cons, List.map_nil]
    refine List.Nodup.append (hc.sublist (hsub.map _)) (List.nodup_singleton _) ?_
    simp [List.disjoint_singleton, List.mem_map, List.mem_filter]
  · have hrest : ∃ rest : List (String × CacheEntry α), rest.Sublist c.entries ∧
        (c.set now k v).entries = rest ++ [(k, ⟨v, now⟩)] := by
      by_cases hfull : 0 < c.maxSize ∧ c.maxSize ≤ c.size
      · obtain ⟨pre, p, post, hsplit, -, hset⟩ := set_of_full hc hk hfull.1 hfull.2
        refine ⟨_, ?_, hset⟩
        rw [hsplit]
        exact List.Sublist.append_left (List.sublist_cons_self p post) pre
      · exact ⟨_, List.Sublist.refl _, set_of_room hk hfull⟩
    obtain ⟨rest, hsub, hset⟩ := hrest
    simp only [Keyed, keys, hset, List.map_append, List.map_cons, List.map_nil]
    refine List.Nodup.append (hc.sublist (hsub.map _)) (List.nodup_singleton _) ?_
    simp only [List.disjoint_singleton]
    exact fun hmem => hk ((hsub.map _).subset hmem)

theorem size_set_le (hc : c.Keyed) (hpos : 0 < c.maxSize) (hsize : c.size ≤ c.maxSize) :
    (c.set now k v).size ≤ c.maxSize := by
  by_cases hk : k ∈ c.keys
  · obtain ⟨q, hq, rfl⟩ := List.mem_map.1 hk
    obtain ⟨pre, post, hsplit⟩ := List.append_of_mem hq
    have hlen : c.entries.length = pre.length + post.length + 1 := by simp [hsplit]; omega
    simp only [size] at hsize ⊢
    rw [set_of_held hk, filter_key_of_split hc hsplit]
    simp only [List.length_append, List.length_singleton]
    omega
  · by_cases hfull : c.maxSize ≤ c.size
    · obtain ⟨pre, p, post, hsplit, -, hset⟩ := set_of_full hc hk hpos hfull
      have hlen : c.entries.length = pre.length + post.length + 1 := by simp [hsplit]; omega
      simp only [size] at hsize ⊢
      rw [hset]
      simp only [List.length_append, List.length_singleton]
      omega
    · simp only [size] at hsize hfull ⊢
      rw [set_of_room hk (fun h => hfull h.2), List.length_append, List.length_singleton]
      omega

/-! ### Reads and loads -/

/-- With each key held once, a read hits exactly the entry held under the key, when it is younger
than the time to live. -/
theorem get?_eq_some_iff (hc : c.Keyed) : c.get? now k = some v ↔
    ∃ w, (k, (⟨v, w⟩ : CacheEntry α)) ∈ c.entries ∧ (c.ttl ≤ 0 ∨ now - w < c.ttl) := by
  cases hl : c.entries.lookup k with
  | none =>
    simp only [get?, hl, reduceCtorEq, false_iff, not_exists, not_and]
    intro w hw
    exact absurd (List.mem_map.2 ⟨_, hw, rfl⟩) (lookup_eq_none_iff.1 hl)
  | some e' =>
    have hmem := (lookup_eq_some_iff hc).1 hl
    simp only [get?, hl]
    constructor
    · intro h
      split_ifs at h with hexp
      cases h
      refine ⟨e'.written, hmem, ?_⟩
      simp only [expired, Bool.and_eq_true, decide_eq_true_eq, not_and, not_le] at hexp
      by_cases ht : 0 < c.ttl
      · exact .inr (hexp ht)
      · exact .inl (not_lt.1 ht)
    · rintro ⟨w, hw, hfresh⟩
      have he' : e' = ⟨v, w⟩ := Option.some.inj (hl.symm.trans ((lookup_eq_some_iff hc).2 hw))
      subst he'
      have hexp : c.expired now ⟨v, w⟩ = false := by
        simp only [expired, Bool.and_eq_false_iff, decide_eq_false_iff_not, not_lt, not_le]
        omega
      simp [hexp]

theorem getOrLoad_of_hit {load : Option (String → Except Fault α)} (h : c.get? now k = some v) :
    c.getOrLoad now k load = .ok (v, c) := by
  simp [getOrLoad, h]

theorem getOrLoad_of_load {f : String → Except Fault α} (h : c.get? now k = none) (hf : f k = .ok v) :
    c.getOrLoad now k (some f) = .ok (v, c.set now k v) := by
  simp [getOrLoad, h, hf, Except.map]

theorem getOrLoad_eq_error_iff {load : Option (String → Except Fault α)} {err : Fault} :
    c.getOrLoad now k load = .error err ↔ c.get? now k = none ∧
      (load = none ∧ err = .noLoader ∨ ∃ f, load = some f ∧ f k = .error err) := by
  unfold getOrLoad
  cases hg : c.get? now k with
  | some v => simp
  | none =>
    cases load with
    | none => simp [eq_comm]
    | some f =>
      cases hf : f k with
      | ok v => simp [hf, Except.map]
      | error e' => simp [hf, Except.map]

/-! ### Steps -/

/-- A step from `c` to `c'` that wrote `wrote`, if anything: what `c'` holds it held before or
wrote, it holds what it wrote, and it holds each key once. -/
structure Steps (c c' : Cache α) (wrote : Option (String × CacheEntry α)) : Prop where
  kept : ∀ p ∈ c'.entries, p ∈ c.entries ∨ wrote = some p
  holds : ∀ p, wrote = some p → p ∈ c'.entries
  keyed : c'.Keyed

theorem steps_refl (hc : c.Keyed) : Steps c c none :=
  ⟨fun _ hp => .inl hp, (fun _ h => nomatch h), hc⟩

theorem steps_of_sublist (hc : c.Keyed) (hsub : c'.entries.Sublist c.entries) : Steps c c' none :=
  ⟨fun _ hp => .inl (hsub.subset hp), (fun _ h => nomatch h), hc.of_sublist hsub⟩

theorem steps_set (hc : c.Keyed) : Steps c (c.set now k v) (some (k, ⟨v, now⟩)) := by
  refine ⟨fun q hq => (mem_set hq).imp_right fun h => by rw [h], ?_, hc.set⟩
  rintro q ⟨⟩
  simp [set]

end Cache

/-- What a step did to a cache's entries. -/
inductive CacheChange (α : Type) where
  | wrote (k : String) (e : CacheEntry α)
  | dropped (k : String)

namespace CacheChange

variable {α : Type} {k : String} {s : Option (CacheEntry α)}

def after (k : String) (acc : Option (CacheEntry α)) : CacheChange α → Option (CacheEntry α)
  | wrote k' e => if k' = k then some e else acc
  | dropped k' => if k' = k then none else acc

def replay (k : String) (start : Option (CacheEntry α)) (log : List (CacheChange α)) :
    Option (CacheEntry α) :=
  log.foldl (after k) start

theorem replay_append (l₁ l₂ : List (CacheChange α)) :
    replay k s (l₁ ++ l₂) = replay k (replay k s l₁) l₂ :=
  List.foldl_append ..

theorem replay_dropped (ks : List String) :
    replay k s (ks.map dropped) = if k ∈ ks then none else s := by
  induction ks generalizing s with
  | nil => rfl
  | cons k' ks ih =>
    rw [List.map_cons, replay, List.foldl_cons, ← replay, ih]
    by_cases hk : k' = k
    · subst hk
      simp [after]
    · simp [after, hk, Ne.symm hk]

end CacheChange

namespace Cache

variable {α : Type} {c c' : Cache α} {now : Int} {k : String} {v : α}
  {wrote : Option (String × CacheEntry α)}

/-- The changes of a step from `c` to `c'` that wrote `wrote`, if anything: the keys held before
and not after, dropped, then the entry written. -/
def changes (c c' : Cache α) (wrote : Option (String × CacheEntry α)) : List (CacheChange α) :=
  (c.keys.filter fun k => k ∉ c'.keys).map .dropped ++ wrote.toList.map fun p => .wrote p.1 p.2

theorem Steps.lookup (hc : c.Keyed) (h : Steps c c' wrote) (k : String) :
    c'.entries.lookup k = CacheChange.replay k (c.entries.lookup k) (c.changes c' wrote) := by
  rw [changes, CacheChange.replay_append, CacheChange.replay_dropped]
  have hdropped : k ∈ c.keys.filter (fun k => k ∉ c'.keys) ↔ k ∈ c.keys ∧ k ∉ c'.keys := by
    simp
  by_cases hw : ∃ e, wrote = some (k, e)
  · -- the step wrote `k`: its entry is the one written
    obtain ⟨e, rfl⟩ := hw
    simp only [Option.toList_some, List.map_cons, List.map_nil, CacheChange.replay, List.foldl_cons,
      List.foldl_nil, CacheChange.after, if_true]
    exact (lookup_eq_some_iff h.keyed).2 (h.holds _ rfl)
  · -- any other key keeps its entry, unless the step dropped it
    have hnot : ∀ e, (k, e) ∈ c'.entries → (k, e) ∈ c.entries := fun e he =>
      (h.kept _ he).resolve_right fun hwe => hw ⟨e, hwe⟩
    have hlast : CacheChange.replay k (if k ∈ c.keys.filter (fun k => k ∉ c'.keys) then none
        else c.entries.lookup k) (wrote.toList.map fun p => .wrote p.1 p.2) =
        if k ∈ c.keys.filter (fun k => k ∉ c'.keys) then none else c.entries.lookup k := by
      rcases wrote with _ | ⟨k', e'⟩
      · rfl
      · have hk' : k' ≠ k := fun hkk => hw ⟨e', by rw [hkk]⟩
        simp [CacheChange.replay, CacheChange.after, hk']
    rw [hlast]
    simp only [hdropped]
    cases hl : c'.entries.lookup k with
    | none =>
      have hk' : k ∉ c'.keys := lookup_eq_none_iff.1 hl
      by_cases hk : k ∈ c.keys
      · rw [if_pos ⟨hk, hk'⟩]
      · rw [if_neg fun h => hk h.1]
        exact (lookup_eq_none_iff.2 hk).symm
    | some e =>
      have hmem := (lookup_eq_some_iff h.keyed).1 hl
      have hk' : k ∈ c'.keys := List.mem_map.2 ⟨_, hmem, rfl⟩
      rw [if_neg fun h => h.2 hk']
      exact ((lookup_eq_some_iff hc).2 (hnot e hmem)).symm

/-- What every step keeps of a cache: each key held once, and a bounded cache within its bound. -/
structure Sound (c : Cache α) : Prop where
  keyed : c.Keyed
  bounded : 0 < c.maxSize → c.size ≤ c.maxSize

end Cache

/-- An operation on a cache. -/
inductive CacheOp (α : Type) where
  | set (k : String) (v : α)
  | get (k : String)
  | getOrLoad (k : String) (load : Option (String → Except Fault α))
  | erase (k : String)
  | clear
  | sweep

namespace CacheOp

variable {α : Type} {c : Cache α} {now : Int}

def apply (c : Cache α) (now : Int) : CacheOp α → Cache α × Option (String × CacheEntry α)
  | set k v => (c.set now k v, some (k, ⟨v, now⟩))
  | get _ => (c, none)
  | getOrLoad k load =>
    match c.get? now k, c.getOrLoad now k load with
    | none, .ok (v, c') => (c', some (k, ⟨v, now⟩))
    | _, _ => (c, none)
  | erase k => (c.erase k, none)
  | clear => (c.clear, none)
  | sweep => (c.sweep now, none)

def run : List (Int × CacheOp α) → Cache α → Cache α × List (CacheChange α)
  | [], c => (c, [])
  | (now, op) :: ops, c =>
    let step := op.apply c now
    ((run ops step.1).1, c.changes step.1 step.2 ++ (run ops step.1).2)

open Cache

/-- A read that loads writes what it loaded, or nothing; a read that hits or fails changes
nothing. -/
theorem apply_getOrLoad (c : Cache α) (now : Int) (k : String) (load : Option (String → Except Fault α)) :
    (getOrLoad k load).apply c now = (c, none) ∨
      ∃ v, (getOrLoad k load).apply c now = (c.set now k v, some (k, ⟨v, now⟩)) := by
  simp only [apply]
  cases hg : c.get? now k with
  | some v => exact .inl (by simp)
  | none =>
    cases hl : c.getOrLoad now k load with
    | error e => exact .inl rfl
    | ok r =>
      obtain ⟨v, c'⟩ := r
      right
      refine ⟨v, ?_⟩
      cases load with
      | none => simp [Cache.getOrLoad, hg] at hl
      | some f =>
        cases hf : f k with
        | error e => simp [Cache.getOrLoad, hg, hf, Except.map] at hl
        | ok v' =>
          rw [getOrLoad_of_load hg hf] at hl
          simp only [Except.ok.injEq, Prod.mk.injEq] at hl
          obtain ⟨rfl, rfl⟩ := hl
          rfl

theorem apply_steps (op : CacheOp α) (now : Int) (hc : c.Keyed) :
    Steps c (op.apply c now).1 (op.apply c now).2 ∧ (op.apply c now).1.maxSize = c.maxSize ∧
      (op.apply c now).1.ttl = c.ttl := by
  cases op with
  | set k v => exact ⟨steps_set hc, rfl, rfl⟩
  | get _ => exact ⟨steps_refl hc, rfl, rfl⟩
  | getOrLoad k load =>
    rcases apply_getOrLoad c now k load with h | ⟨v, h⟩ <;> rw [h]
    · exact ⟨steps_refl hc, rfl, rfl⟩
    · exact ⟨steps_set hc, rfl, rfl⟩
  | erase k => exact ⟨steps_of_sublist hc List.filter_sublist, rfl, rfl⟩
  | clear => exact ⟨steps_of_sublist hc (List.nil_sublist _), rfl, rfl⟩
  | sweep => exact ⟨steps_of_sublist hc List.filter_sublist, rfl, rfl⟩

theorem apply_sound (op : CacheOp α) (now : Int) (hc : c.Sound) : (op.apply c now).1.Sound := by
  obtain ⟨hsteps, hmax, -⟩ := apply_steps op now hc.keyed
  refine ⟨hsteps.keyed, fun hpos => ?_⟩
  rw [hmax] at hpos ⊢
  have hsize := hc.bounded hpos
  have hsub : ∀ l : List (String × CacheEntry α), l.Sublist c.entries → (l.length : Int) ≤ c.maxSize :=
    fun l hl => by
      have := hl.length_le
      simp only [size] at hsize
      omega
  cases op with
  | set k v => exact size_set_le hc.keyed hpos hsize
  | get _ => exact hsize
  | getOrLoad k load =>
    rcases apply_getOrLoad c now k load with h | ⟨v, h⟩ <;> rw [h]
    · exact hsize
    · exact size_set_le hc.keyed hpos hsize
  | erase k => exact hsub _ List.filter_sublist
  | clear => exact hsub _ (List.nil_sublist _)
  | sweep => exact hsub _ List.filter_sublist

theorem run_sound (ops : List (Int × CacheOp α)) : ∀ c : Cache α, c.Sound →
    (run ops c).1.Sound ∧ (run ops c).1.maxSize = c.maxSize ∧ (run ops c).1.ttl = c.ttl := by
  induction ops with
  | nil => exact fun c hc => ⟨hc, rfl, rfl⟩
  | cons step ops ih =>
    obtain ⟨now, op⟩ := step
    intro c hc
    obtain ⟨-, hmax, httl⟩ := apply_steps op now hc.keyed
    obtain ⟨hsound, hmax', httl'⟩ := ih _ (apply_sound op now hc)
    exact ⟨hsound, hmax'.trans hmax, httl'.trans httl⟩

theorem run_lookup (ops : List (Int × CacheOp α)) : ∀ c : Cache α, c.Keyed → ∀ k,
    (run ops c).1.entries.lookup k = CacheChange.replay k (c.entries.lookup k) (run ops c).2 := by
  induction ops with
  | nil => exact fun _ _ _ => rfl
  | cons step ops ih =>
    obtain ⟨now, op⟩ := step
    intro c hc k
    obtain ⟨hsteps, -, -⟩ := apply_steps op now hc
    rw [run, CacheChange.replay_append, ← hsteps.lookup hc k]
    exact ih _ hsteps.keyed k

end CacheOp

open Cache in
/-- The laws of the cache. A run of operations from an empty cache keeps a bounded cache within
its bound, and a read after it hits with `v` exactly when the latest write of the key, not
dropped since, stored `v` less than the time to live ago, or the cache has no time to live. On a
cache holding each key once, writing a held key drops no other entry; writing a new key into a
full cache drops exactly one entry, one written first; a read that hits changes nothing; and a
read fails exactly on a miss, without a loader or with the loader's failure. -/
theorem cache_reads_see_latest_live_write {α : Type} (ops : List (Int × CacheOp α)) (maxSize ttl : Int) :
    (0 < maxSize → (CacheOp.run ops { maxSize := maxSize, ttl := ttl }).1.size ≤ maxSize) ∧
    (∀ now k v, (CacheOp.run ops { maxSize := maxSize, ttl := ttl }).1.get? now k = some v ↔
      ∃ w, CacheChange.replay k none (CacheOp.run ops { maxSize := maxSize, ttl := ttl }).2 =
        some ⟨v, w⟩ ∧ (ttl ≤ 0 ∨ now - w < ttl)) ∧
    ∀ c : Cache α, c.Keyed → ∀ now k v,
      (k ∈ c.keys → ∀ p ∈ c.entries, p.1 ≠ k → p ∈ (c.set now k v).entries) ∧
      (k ∉ c.keys → 0 < c.maxSize → c.maxSize ≤ c.size →
        ∃ pre p post, c.entries = pre ++ p :: post ∧ (∀ q ∈ c.entries, p.2.written ≤ q.2.written) ∧
          (c.set now k v).entries = pre ++ post ++ [(k, ⟨v, now⟩)]) ∧
      (∀ load, c.get? now k = some v → c.getOrLoad now k load = .ok (v, c)) ∧
      (∀ load err, c.getOrLoad now k load = .error err ↔ c.get? now k = none ∧
        (load = none ∧ err = .noLoader ∨ ∃ f, load = some f ∧ f k = .error err)) := by
  have hempty : Sound ({ maxSize := maxSize, ttl := ttl } : Cache α) :=
    ⟨List.nodup_nil, fun hpos => by simp only [size, List.length_nil, Nat.cast_zero]; exact hpos.le⟩
  obtain ⟨hrun, hmax, httl⟩ := CacheOp.run_sound ops _ hempty
  dsimp only at hmax httl
  refine ⟨fun hpos => ?_, fun now k v => ?_, fun c hc now k v =>
    ⟨fun hk p hp hpk => ?_, set_of_full hc, fun _ => getOrLoad_of_hit, fun _ _ => getOrLoad_eq_error_iff⟩⟩
  · have hbound := hrun.bounded (by rw [hmax]; exact hpos)
    rwa [hmax] at hbound
  · -- the entry a read finds is the one the log leaves
    have hlog := CacheOp.run_lookup ops _ hempty.keyed k
    rw [get?_eq_some_iff hrun.keyed, httl]
    constructor
    · rintro ⟨w, hw, hfresh⟩
      exact ⟨w, hlog.symm.trans ((lookup_eq_some_iff hrun.keyed).2 hw), hfresh⟩
    · rintro ⟨w, hw, hfresh⟩
      exact ⟨w, (lookup_eq_some_iff hrun.keyed).1 (hlog.trans hw), hfresh⟩
  · rw [set_of_held hk]
    exact List.mem_append_left _ (List.mem_filter.2 ⟨hp, by simpa using hpk⟩)

/-- Three keys written into a cache bounded at two leave two entries. -/
theorem three_writes_keep_two_entries :
    0 < (2 : Int) ∧ ((CacheOp.run [(1, .set "a" "x"), (2, .set "b" "y"), (3, .set "c" "z")]
      ({ maxSize := 2, ttl := 0 } : Cache String)).1.size : Int) ≤ 2 :=
  ⟨by decide, (cache_reads_see_latest_live_write _ 2 0).1 (by decide)⟩

end MediaTimeline
