import MediaTimeline.Proofs.StampText
import MediaTimeline.Proofs.RangeLattice

/-! The bracket text of a range read back. -/

namespace MediaTimeline

theorem except_bind_eq_ok {ε α β : Type} {x : Except ε α} {f : α → Except ε β} {b : β} :
    x >>= f = .ok b ↔ ∃ a, x = .ok a ∧ f a = .ok b := by
  cases x <;> simp [bind, Except.bind]

namespace Stamp

variable {t : Stamp} {s : String}

theorem nsec_lt (t : Stamp) : t.nsec < nanosPerSecond := by
  unfold nsec nanosPerSecond
  omega

theorem words_normal : t.words.Normal := by
  have hn := t.nsec_lt
  unfold nanosPerSecond at hn
  simp only [words, Words.Normal, Int32.toInt_ofNat_of_lt (show t.nsec < 2 ^ 31 by omega),
    nanosPerSecond]
  omega

theorem words_value (h : Representable t.nanos) : t.words.value = t.nanos := by
  simp only [Representable, int64Min, int64Max, nanosPerSecond] at h
  have hs : (Int64.ofInt t.sec).toInt = t.sec := by
    unfold sec nanosPerSecond
    exact Int64.toInt_ofInt_of_le (by omega) (by omega)
  have hn := t.nsec_lt
  unfold nanosPerSecond at hn
  simp only [words, Words.value, hs, Int32.toInt_ofNat_of_lt (show t.nsec < 2 ^ 31 by omega)]
  unfold sec nsec nanosPerSecond
  omega

theorem parse_toText (h : Representable t.nanos) : parse t.toText = .ok t := by
  rw [parse, toText, Words.parse_toText words_normal]
  simp only [Except.map, Words.toStamp, words_value h]

theorem representable_of_parse (h : parse s = .ok t) : Representable t.nanos := by
  obtain ⟨w, hw, rfl⟩ := except_map_eq_ok.1 h
  obtain ⟨-, -, -, -, -, -, hn, -⟩ := Words.parse_eq_ok_iff.1 hw
  exact Words.representable_value hn

end Stamp

namespace TimeRange

def StampChar (c : Char) : Prop := c.isDigit = true ∨ c = ':' ∨ c = '+' ∨ c = '-'

theorem StampChar.plain {c : Char} (h : StampChar c) :
    c ≠ '_' ∧ c ≠ '[' ∧ c ≠ '(' ∧ c ≠ ']' ∧ c ≠ ')' ∧ Text.isBlank c = false := by
  rcases h with h | rfl | rfl | rfl
  · have hd := Json.isDigit_toNat h
    refine ⟨?_, ?_, ?_, ?_, ?_, ?_⟩
    all_goals try (rintro rfl; revert hd; decide)
    simp only [Text.isBlank, Bool.or_eq_false_iff, Bool.and_eq_false_iff, decide_eq_false_iff_not]
    omega
  all_goals decide

theorem toText_chars (t : Stamp) : t.toText.toList ≠ [] ∧ ∀ c ∈ t.toText.toList, StampChar c := by
  obtain ⟨neg, secs, nanos, ⟨⟨sign, hsign, -, hs⟩, -, hsd, -, hnd⟩, -⟩ :=
    Stamp.Words.toText_literal (@Stamp.words_normal t)
  refine ⟨by simp [Stamp.toText, hs], fun c hc => ?_⟩
  rw [Stamp.toText, hs] at hc
  simp only [List.mem_append, List.mem_cons] at hc
  simp only [List.mem_cons, List.mem_nil_iff, or_false] at hsign
  rcases hc with (hc | hc) | rfl | hc
  · rcases hsign with rfl | rfl | rfl <;> simp_all [StampChar]
  · exact .inl (hsd c hc)
  · exact .inr (.inl rfl)
  · exact .inl (hnd c hc)

theorem trimBlankList_of_plain {cs : List Char} (h : ∀ x ∈ cs, Text.isBlank x = false) :
    Text.trimBlankList cs = cs := by
  have hd : ∀ l : List Char, (∀ x ∈ l, Text.isBlank x = false) → l.dropWhile Text.isBlank = l := by
    rintro (_ | ⟨x, l⟩) hl
    · rfl
    · simp [hl x List.mem_cons_self]
  unfold Text.trimBlankList
  rw [hd cs h, hd cs.reverse (by simpa using h), List.reverse_reverse]

theorem cut_underscore {A B : List Char} (hA : ∀ x ∈ A, StampChar x) :
    (A ++ '_' :: B).takeWhile (· != '_') = A ∧ (A ++ '_' :: B).dropWhile (· != '_') = '_' :: B := by
  have hne : ∀ x ∈ A, (x != '_') = true := fun x hx => by simpa using (hA x hx).plain.1
  rw [List.takeWhile_append_of_pos hne, List.dropWhile_append_of_pos hne]
  simp

def startBracket (l : Option Bound) : Option Char := l.map fun a => if a.closed then '[' else '('

def stopBracket (u : Option Bound) : Option Char := u.map fun b => if b.closed then ']' else ')'

/-- The characters of an end's instant, or nothing for an absent end. -/
def endChars (x : Option Bound) : List Char := (x.map fun a => a.stamp.toText.toList).getD []

theorem endChars_chars (x : Option Bound) : ∀ c ∈ endChars x, StampChar c := by
  rcases x with _ | a
  · simp [endChars]
  · exact (toText_chars a.stamp).2

theorem endChars_eq_nil {x : Option Bound} : endChars x = [] ↔ x = none := by
  rcases x with _ | a
  · simp [endChars]
  · simp [endChars, (toText_chars a.stamp).1]

theorem parseEnd_endChars {s : String} {x : Option Bound}
    (hx : ∀ a ∈ x, Stamp.Representable a.stamp.nanos) :
    parseEnd s (endChars x) = .ok (x.map (·.stamp)) := by
  rcases x with _ | a
  · rfl
  · have hne := (toText_chars a.stamp).1
    simp [parseEnd, endChars, hne, Stamp.parse_toText (hx a rfl)]

variable {s : String} {A B : List Char} {o c : Option Char}

/-- How the reader takes apart a text of an optional opening bracket, the characters of an
instant, an underscore, those of another instant and an optional closing bracket: each side of
the underscore is read as an end, and the brackets give the closedness of the ends. -/
theorem parse_of_split (hs : s.toList = o.toList ++ A ++ '_' :: B ++ c.toList)
    (ho : o = none ∨ o = some '[' ∨ o = some '(') (hc : c = none ∨ c = some ']' ∨ c = some ')')
    (hA : ∀ x ∈ A, StampChar x) (hB : ∀ x ∈ B, StampChar x)
    (hoA : o = none → A = []) (hcB : c = none → B = []) (hne : A ≠ [] ∨ B ≠ []) :
    parse s = (do
      let start ← parseEnd s A
      let stop ← parseEnd s B
      match start, stop with
      | some a, some b =>
        if b < a then throw (.startAfterStop s)
        else pure (ofStamps start stop (o != some '(') (c == some ']'))
      | _, _ => pure (ofStamps start stop (o != some '(') (c == some ']'))) := by
  have htrim : Text.trimBlankList s.toList = s.toList := by
    refine trimBlankList_of_plain fun x hx => ?_
    rw [hs] at hx
    simp only [List.mem_append, List.mem_cons] at hx
    rcases hx with ((hx | hx) | rfl | hx) | hx
    · rcases ho with rfl | rfl | rfl <;> simp_all <;> decide
    · exact (hA x hx).plain.2.2.2.2.2
    · decide
    · exact (hB x hx).plain.2.2.2.2.2
    · rcases hc with rfl | rfl | rfl <;> simp_all <;> decide
  obtain ⟨htake, hdrop⟩ := cut_underscore (B := B) hA
  rw [parse]
  simp only [htrim]
  simp only [hs]
  -- the brackets present decide what the reader strips from each side
  rcases ho with rfl | rfl | rfl <;> rcases hc with rfl | rfl | rfl
  all_goals simp only [forall_const, reduceCtorEq, IsEmpty.forall_iff] at hoA hcB
  all_goals try subst hoA
  all_goals try subst hcB
  · simp at hne
  -- the statement's match may be a matcher of its own, which only rfl unfolds
  all_goals (simp [List.getLast?_append, List.getLast?_cons, List.dropLast_append_of_ne_nil,
    List.dropLast_cons_of_ne_nil, List.append_eq_singleton_iff, htake, hdrop]; try rfl)

variable {l u : Option Bound}

/-- A text of two ends about an underscore reads as the range between them, when their instants
read back and the start does not come after the end. -/
theorem parse_ends (hl : ∀ a ∈ l, Stamp.Representable a.stamp.nanos)
    (hu : ∀ b ∈ u, Stamp.Representable b.stamp.nanos) (hne : l.isSome ∨ u.isSome)
    (hord : ∀ a ∈ l, ∀ b ∈ u, ¬ b.stamp < a.stamp)
    (hs : s.toList =
      (startBracket l).toList ++ endChars l ++ '_' :: endChars u ++ (stopBracket u).toList) :
    parse s = .ok (make l u) := by
  have hsplit := parse_of_split hs
    (by rcases l with _ | ⟨a, _ | _⟩ <;> simp [startBracket])
    (by rcases u with _ | ⟨b, _ | _⟩ <;> simp [stopBracket])
    (endChars_chars l) (endChars_chars u)
    (fun h => endChars_eq_nil.2 (Option.map_eq_none_iff.1 h))
    (fun h => endChars_eq_nil.2 (Option.map_eq_none_iff.1 h))
    (by simpa [endChars_eq_nil, Option.isSome_iff_ne_none] using hne)
  rw [hsplit, parseEnd_endChars hl, parseEnd_endChars hu]
  clear hs hsplit
  rcases l with _ | ⟨a, _ | _⟩ <;> rcases u with _ | ⟨b, _ | _⟩
  · simp at hne
  all_goals simp_all [startBracket, stopBracket, ofStamps, bind, Except.bind, pure, Except.pure]
  all_goals first | rfl | (rw [if_neg (not_lt.2 hord)]; rfl)

theorem parse_instant {t : Stamp} (ht : Stamp.Representable t.nanos)
    (hs : s.toList = '[' :: (t.toText.toList ++ [']'])) :
    parse s = .ok (ofStamps (some t) (some t) true true) := by
  obtain ⟨hne, hchars⟩ := toText_chars t
  have htrim : Text.trimBlankList s.toList = s.toList := by
    refine trimBlankList_of_plain fun x hx => ?_
    rw [hs, List.mem_cons, List.mem_append, List.mem_singleton] at hx
    rcases hx with rfl | hx | rfl
    · decide
    · exact (hchars x hx).plain.2.2.2.2.2
    · decide
  have hdrop : t.toText.toList.dropWhile (· != '_') = [] :=
    List.dropWhile_eq_nil_iff.2 fun x hx => by simpa using (hchars x hx).plain.1
  rw [parse]
  simp only [htrim]
  simp only [hs]
  simp [List.getLast?_append, List.dropLast_append_of_ne_nil, hne, hdrop,
    Stamp.parse_toText ht]
  rfl

variable {r : TimeRange}

/-- The text of a range that is neither empty, the whole timeline nor one instant: its brackets
and instants about an underscore. -/
theorem toText_toList_of_ends (he : r.isEmpty = false) (ht : r.isEternity = false)
    (hi : r.isInstant = false) :
    r.toText.toList = (startBracket r.lower).toList ++ endChars r.lower ++
      '_' :: endChars r.upper ++ (stopBracket r.upper).toList := by
  simp only [toText, he, ht, hi, Bool.false_eq_true, if_false]
  rcases r with ⟨_ | ⟨a, _ | _⟩, _ | ⟨b, _ | _⟩⟩ <;>
    simp [startBracket, stopBracket, endChars]

theorem parse_toText (hr : r.Representable) : parse r.toText = .ok (make r.lower r.upper) := by
  by_cases he : r.isEmpty = true
  · have hmake : make r.lower r.upper = never := by simp [make, he]
    rw [toText, if_pos he, hmake]
    rfl
  rw [Bool.not_eq_true] at he
  by_cases ht : r.isEternity = true
  · obtain ⟨hl, hu⟩ : r.lower = none ∧ r.upper = none := by
      simpa [isEternity] using ht
    rw [toText, if_neg (by simp [he]), if_pos ht, hl, hu]
    rfl
  rw [Bool.not_eq_true] at ht
  by_cases hi : r.isInstant = true
  · -- one closed instant at both ends
    obtain ⟨a, b, hl, hu, hab, ha, hb⟩ : ∃ a b, r.lower = some a ∧ r.upper = some b ∧
        a.stamp = b.stamp ∧ a.closed = true ∧ b.closed = true := by
      unfold isInstant at hi
      split at hi
      · simp only [Bool.and_eq_true, decide_eq_true_eq] at hi
        exact ⟨_, _, ‹_›, ‹_›, hi.1.1, hi.1.2, hi.2⟩
      · simp at hi
    have hs : r.toText.toList = '[' :: (a.stamp.toText.toList ++ [']']) := by
      simp [toText, he, ht, hi, hl]
    rw [parse_instant (hr.1 a hl) hs, hl, hu, ofStamps]
    rcases a with ⟨ta, ca⟩
    rcases b with ⟨tb, cb⟩
    simp_all
  · rw [Bool.not_eq_true] at hi
    refine parse_ends hr.1 hr.2 ?_ ?_ (toText_toList_of_ends he ht hi)
    · simpa [isEternity, Option.isSome_iff_ne_none, ← not_and_or] using ht
    · intro a ha b hb
      rw [Option.mem_def] at ha hb
      simp only [isEmpty, ha, hb, Bool.or_eq_false_iff, decide_eq_false_iff_not] at he
      exact he.1

theorem parse_toText_of_normal (hr : r.Normal) : parse r.toText = .ok r := by
  rw [parse_toText hr.representable]
  cases he : r.isEmpty
  · exact congrArg Except.ok (make_of_isEmpty_eq_false he)
  · rw [hr.eq_never he]
    rfl

theorem make_equiv (r : TimeRange) : (make r.lower r.upper).equiv r = true := by
  cases he : r.isEmpty
  · rw [make_of_isEmpty_eq_false he]
    exact equiv_self _
  · have hmake : make r.lower r.upper = never := by simp [make, he]
    simp [hmake, equiv, isEmpty_never, he]

theorem parseEnd_representable {cs : List Char} {x : Option Stamp} (h : parseEnd s cs = .ok x) :
    ∀ t ∈ x, Stamp.Representable t.nanos := by
  intro t ht
  unfold parseEnd at h
  split_ifs at h
  · simp_all
  · split at h
    · next t' hp =>
      cases h
      obtain rfl : t' = t := Option.some_inj.1 ht
      exact Stamp.representable_of_parse hp
    · cases h

theorem normal_ofStamps {x y : Option Stamp} {c d : Bool}
    (hx : ∀ t ∈ x, Stamp.Representable t.nanos) (hy : ∀ t ∈ y, Stamp.Representable t.nanos) :
    (ofStamps x y c d).Normal :=
  normal_make ⟨by simpa using hx, by simpa using hy⟩

theorem normal_of_parse (h : parse s = .ok r) : r.Normal := by
  unfold parse at h
  extract_lets body at h
  split_ifs at h
  · cases h
    exact normal_make representable_never
  · cases h
    exact ⟨by simp [isEmpty, eternity], fun _ h => by simp [eternity] at h,
      fun _ h => by simp [eternity] at h⟩
  split at h
  split at h
  split at h
  · split_ifs at h
    split at h
    · cases h
    · next t ht =>
      cases h
      have hrep := Stamp.representable_of_parse ht
      exact normal_ofStamps (by simpa using hrep) (by simpa using hrep)
  · obtain ⟨x, hx, h⟩ := except_bind_eq_ok.1 h
    obtain ⟨y, hy, h⟩ := except_bind_eq_ok.1 h
    have hxr := parseEnd_representable hx
    have hyr := parseEnd_representable hy
    split at h
    · split_ifs at h
      cases h
      exact normal_ofStamps hxr hyr
    · cases h
      exact normal_ofStamps hxr hyr

/-- Writing a range and reading it back. A normal range reads back from its text as itself. A
range over instants whose seconds fit 64 bits reads back as a range equal to it, and as itself
when it is not empty. A text the reader takes gives a normal range, and the text of that range
reads back as the same range. -/
theorem range_text_round_trip :
    (∀ r : TimeRange, r.Normal → parse r.toText = .ok r) ∧
    (∀ r : TimeRange, r.Representable →
      ∃ r', parse r.toText = .ok r' ∧ r'.equiv r = true ∧ (r.isEmpty = false → r' = r)) ∧
    ∀ (s : String) (r : TimeRange), parse s = .ok r → r.Normal ∧ parse r.toText = .ok r := by
  refine ⟨fun r hr => parse_toText_of_normal hr, fun r hr => ?_, fun s r h => ?_⟩
  · exact ⟨make r.lower r.upper, parse_toText hr, make_equiv r, make_of_isEmpty_eq_false⟩
  · have hn := normal_of_parse h
    exact ⟨hn, parse_toText_of_normal hn⟩

/-- A range from a negative instant on, with no end, reads back from its text as itself. -/
theorem negative_start_reads_back :
    parse (TimeRange.mk (some ⟨⟨-1500000000⟩, true⟩) none).toText =
      .ok ⟨some ⟨⟨-1500000000⟩, true⟩, none⟩ :=
  range_text_round_trip.1 _
    ⟨fun h => by simp [isEmpty] at h,
      fun b hb => by
        rw [Option.mem_some_iff] at hb
        subst hb
        decide,
      fun b hb => by simp at hb⟩

end TimeRange

end MediaTimeline
