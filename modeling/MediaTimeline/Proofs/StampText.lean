import Mathlib
import MediaTimeline.Proofs.StampWords
import MediaTimeline.Proofs.PageToken

/-! The text form of a timestamp read and written. -/

namespace MediaTimeline.Stamp

def decimal (ds : List Char) : Nat := Nat.ofDigits 10 (ds.reverse.map fun c => c.toNat - '0'.toNat)

theorem digitsValue_eq_decimal (ds : List Char) : digitsValue ds = decimal ds := by
  induction ds using List.reverseRecOn with
  | nil => rfl
  | append_singleton ds d ih =>
    simp only [digitsValue, decimal, List.foldl_append, List.foldl_cons, List.foldl_nil,
      List.reverse_append, List.reverse_cons, List.reverse_nil, List.nil_append, List.singleton_append,
      List.map_cons, Nat.ofDigits_cons] at ih ⊢
    rw [ih]
    ring

theorem allDigits_iff (ds : List Char) : allDigits ds = true ↔ ds ≠ [] ∧ ∀ c ∈ ds, c.isDigit := by
  simp [allDigits]

theorem splitSign_cases (cs : List Char) :
    ∃ sign ∈ [[], ['+'], ['-']], cs = sign ++ (splitSign cs).2 ∧
      ((splitSign cs).1 = true ↔ sign = ['-']) := by
  unfold splitSign
  split
  · exact ⟨['-'], by simp, rfl, by simp⟩
  · exact ⟨['+'], by simp, rfl, by simp⟩
  · exact ⟨[], by simp, rfl, by simp⟩

theorem splitSign_append {sign body : List Char} (hsign : sign ∈ [[], ['+'], ['-']])
    {d : Char} {rest : List Char} (hbody : body = d :: rest) (hd : d.isDigit) :
    splitSign (sign ++ body) = (decide (sign = ['-']), body) := by
  simp only [List.mem_cons, List.mem_nil_iff, or_false] at hsign
  rcases hsign with rfl | rfl | rfl
  · subst hbody
    have h₁ : d ≠ '-' := by rintro rfl; simp at hd
    have h₂ : d ≠ '+' := by rintro rfl; simp at hd
    simp [splitSign, h₁, h₂]
  · simp [splitSign]
  · simp [splitSign]

theorem cut_digits {secs : List Char} (hs : ∀ c ∈ secs, c.isDigit) (nanos : List Char) :
    (secs ++ ':' :: nanos).takeWhile (· != ':') = secs ∧
      (secs ++ ':' :: nanos).dropWhile (· != ':') = ':' :: nanos := by
  induction secs with
  | nil => simp
  | cons c cs ih =>
    obtain ⟨h₁, h₂⟩ := ih fun x hx => hs x (List.mem_cons_of_mem c hx)
    have hc : c ≠ ':' := by
      rintro rfl
      simp at hs
    simp [hc, h₁, h₂]

/-- Where a text has a colon, it is what comes before the first one, the colon and the rest. -/
theorem split_at_colon {body nanos : List Char} {c : Char}
    (h : body.dropWhile (· != ':') = c :: nanos) :
    body = body.takeWhile (· != ':') ++ ':' :: nanos := by
  have hc : c = ':' := by simpa [h] using List.head?_dropWhile_not (· != ':') body
  calc body = body.takeWhile (· != ':') ++ body.dropWhile (· != ':') :=
        List.takeWhile_append_dropWhile.symm
    _ = body.takeWhile (· != ':') ++ ':' :: nanos := by rw [h, hc]

def denote (neg : Bool) (sec nsec : Nat) : Int :=
  (if neg then -1 else 1) * ((sec * nanosPerSecond + nsec : Nat) : Int)

/-- The text form of a timestamp: a plus or minus sign or none, decimal digits for the seconds,
a colon and decimal digits for the nanoseconds; it is negative exactly when it starts with a
minus. -/
def Literal (s : String) (neg : Bool) (secs nanos : List Char) : Prop :=
  (∃ sign ∈ [[], ['+'], ['-']], (neg = true ↔ sign = ['-']) ∧
      s.toList = sign ++ secs ++ ':' :: nanos) ∧
    secs ≠ [] ∧ (∀ c ∈ secs, c.isDigit) ∧ nanos ≠ [] ∧ ∀ c ∈ nanos, c.isDigit

namespace Words

variable {w : Words}

theorem magnitude_constants :
    Int64.maxValue.toUInt64.toNat = 2 ^ 63 - 1 ∧ (Int64.maxValue.toUInt64 + 1).toNat = 2 ^ 63 ∧
      (1000000000 : Int64).toInt = 1000000000 := by
  decide

theorem ofMagnitude_spec (neg : Bool) {m k : Nat} (hm : m < 2 ^ 64) (hk : k < nanosPerSecond) :
    match ofMagnitude neg (UInt64.ofNat m) (Int64.ofNat k) with
    | some w => Representable (denote neg m k) ∧ w.Normal ∧ w.value = denote neg m k
    | none => ¬ Representable (denote neg m k) := by
  obtain ⟨hlim, hlim₁, hs⟩ := magnitude_constants
  simp only [nanosPerSecond] at hk
  have hkv : (Int64.ofNat k).toInt = k := Int64.toInt_ofNat_of_lt (by omega)
  have hk0 : Int64.ofNat k = 0 ↔ k = 0 := by
    rw [← Int64.toInt_inj, hkv, show (0 : Int64).toInt = 0 from rfl]
    omega
  have hmv : (UInt64.ofNat m).toNat = m := by simp; omega
  have hm0 : UInt64.ofNat m = 0 ↔ m = 0 := by
    rw [← UInt64.toNat_inj, hmv, UInt64.toNat_zero]
  have hsec : ∀ n : Nat, n < 2 ^ 63 → ((UInt64.ofNat n).toInt64).toInt = n := fun n h => by
    rw [UInt64.toInt64_ofNat', Int64.toInt_ofNat_of_lt h]
  simp only [ofMagnitude, UInt64.lt_iff_toNat_lt, hmv, Bool.and_eq_true, decide_eq_true_eq, hk0,
    hm0]
  cases neg with
  | false =>
    simp only [Bool.false_eq_true, false_and, if_false, hlim, Bool.not_false, if_true]
    split_ifs with hl
    · simp only [denote, Bool.false_eq_true, ↓reduceIte, Representable, int64Min, int64Max,
        nanosPerSecond]
      omega
    · simp only [denote, Bool.false_eq_true, ↓reduceIte, Representable, Normal, value, int64Min,
        int64Max, nanosPerSecond, Int64.toInt_toInt32, hkv, hsec m (by omega)]
      simp (disch := omega) only [bmod_half]
      omega
  | true =>
    by_cases hk₀ : k = 0
    · by_cases hm₀ : m = 0
      · subst hk₀ hm₀
        simp [denote, Representable, Normal, value, int64Min, int64Max, nanosPerSecond]
      · simp only [hk₀, and_true, if_true, hlim₁, Bool.not_true, Bool.false_eq_true, if_false,
          hm₀]
        split_ifs with hl
        · simp only [denote, ↓reduceIte, Representable, int64Min, int64Max, nanosPerSecond]
          omega
        · have hpred : UInt64.ofNat m - 1 = UInt64.ofNat (m - 1) := by
            have hle : 1 ≤ UInt64.ofNat m := by
              rw [UInt64.le_iff_toNat_le, hmv, UInt64.toNat_one]
              omega
            rw [← UInt64.toNat_inj, UInt64.toNat_sub_of_le _ _ hle]
            simp
            omega
          simp only [denote, ↓reduceIte, Representable, Normal, value, int64Min, int64Max, nanosPerSecond,
            Int64.toInt_sub, Int64.toInt_neg, hpred, hsec (m - 1) (by omega), Int64.toInt_one, Int32.toInt_zero]
          simp (disch := omega) only [bmod_word]
          omega
    · simp only [hk₀, and_false, if_false, hlim, Bool.not_true, Bool.false_eq_true]
      split_ifs with hl
      · simp only [denote, ↓reduceIte, Representable, int64Min, int64Max, nanosPerSecond]
        omega
      · simp only [denote, ↓reduceIte, Representable, Normal, value, int64Min, int64Max, nanosPerSecond,
          Int64.toInt_sub, Int64.toInt_neg, Int64.toInt_toInt32, hsec m (by omega), Int64.toInt_one, hs, hkv]
        simp (disch := omega) only [bmod_word, bmod_half]
        omega

theorem lt_of_representable {neg : Bool} {m k : Nat} (h : Representable (denote neg m k)) :
    m < 2 ^ 64 := by
  cases neg <;> simp only [denote, Bool.false_eq_true, ↓reduceIte, Representable, int64Min,
    int64Max, nanosPerSecond] at h <;> omega

/-- Reading a timestamp text succeeds exactly on literals whose value has a stored form, and gives
that form. -/
theorem parse_eq_ok_iff {s : String} :
    parse s = .ok w ↔ ∃ neg secs nanos, Literal s neg secs nanos ∧ decimal nanos < nanosPerSecond ∧
      Representable (denote neg (decimal secs) (decimal nanos)) ∧ w.Normal ∧
        w.value = denote neg (decimal secs) (decimal nanos) := by
  obtain ⟨sign, hsign, hs, hneg⟩ := splitSign_cases s.toList
  rcases hsp : splitSign s.toList with ⟨neg, body⟩
  rw [hsp] at hs hneg
  dsimp only at hs hneg
  constructor
  · intro h
    simp only [parse, hsp] at h
    split at h
    · cases h
    rename_i c nanos hdrop
    have hbody := split_at_colon hdrop
    split_ifs at h with hdig hlong hnan
    simp only [Bool.not_eq_true, Bool.not_eq_false', Bool.and_eq_true, allDigits_iff] at hdig
    split at h
    case h_2 => cases h
    rename_i w' hmag
    cases h
    have hw := ofMagnitude_spec neg (not_le.1 hlong) (not_le.1 hnan)
    rw [hmag] at hw
    obtain ⟨hrep, hnorm, hval⟩ := hw
    rw [digitsValue_eq_decimal, digitsValue_eq_decimal] at hrep hval
    refine ⟨neg, _, nanos, ⟨⟨sign, hsign, hneg, ?_⟩, hdig.1.1, hdig.1.2, hdig.2⟩, ?_, hrep, hnorm, hval⟩
    · rw [hs, List.append_assoc, ← hbody]
    · rw [← digitsValue_eq_decimal]
      exact not_le.1 hnan
  · rintro ⟨neg', secs, nanos, ⟨⟨sign', hsign', hneg', hs'⟩, hsecs, hsd, hnanos, hnd⟩, hk, hrep, hw,
      hval⟩
    obtain ⟨d, rest, rfl⟩ := List.exists_cons_of_ne_nil hsecs
    -- a first digit is no sign, so the sign read is the literal's own
    have hsplit : splitSign s.toList = (neg', d :: rest ++ ':' :: nanos) := by
      rw [hs', List.append_assoc, splitSign_append hsign' List.cons_append (hsd d List.mem_cons_self)]
      simp only [← hneg', Bool.decide_eq_true]
    rw [hsp, Prod.mk.injEq] at hsplit
    obtain ⟨rfl, rfl⟩ := hsplit
    obtain ⟨htake, hdrop⟩ := cut_digits hsd nanos
    have hm := lt_of_representable hrep
    rw [← digitsValue_eq_decimal, ← digitsValue_eq_decimal] at hrep hval
    rw [← digitsValue_eq_decimal] at hm hk
    have hdig : allDigits (d :: rest) = true ∧ allDigits nanos = true :=
      ⟨(allDigits_iff _).2 ⟨hsecs, hsd⟩, (allDigits_iff _).2 ⟨hnanos, hnd⟩⟩
    simp only [parse, hsp, hdrop, htake, hdig, Bool.and_self, Bool.not_true, Bool.false_eq_true,
      if_false, not_le.2 hm, not_le.2 hk]
    have hspec := ofMagnitude_spec neg hm hk
    split
    · rename_i w' hmag
      rw [hmag] at hspec
      obtain ⟨-, hw', hval'⟩ := hspec
      rw [eq_of_value_eq hw' hw (hval'.trans hval.symm)]
    · rename_i hmag
      rw [hmag] at hspec
      exact absurd hrep hspec

end Words

theorem toDigits_literal (m : Nat) :
    Nat.toDigits 10 m ≠ [] ∧ (∀ c ∈ Nat.toDigits 10 m, c.isDigit) ∧
      decimal (Nat.toDigits 10 m) = m := by
  obtain ⟨hne, hall⟩ := (allDigits_iff _).1 (Json.toDigits_digits m)
  refine ⟨hne, hall, ?_⟩
  rw [← digitsValue_eq_decimal]
  exact Json.foldl_toDigits m

theorem toList_toString_nat (m : Nat) : (toString m).toList = Nat.toDigits 10 m := by
  simp [toString, Nat.repr]

theorem toList_toString_int {n : Int} (h : 0 ≤ n) : (toString n).toList = Nat.toDigits 10 n.toNat := by
  obtain ⟨m, rfl⟩ := Int.eq_ofNat_of_zero_le h
  show (String.ofList _).toList = _
  simp

theorem literal_of_digits {sign : List Char} (hsign : sign ∈ [[], ['+'], ['-']]) (a b : Nat)
    {s : String} (hs : s.toList = sign ++ Nat.toDigits 10 a ++ ':' :: Nat.toDigits 10 b) :
    Literal s (decide (sign = ['-'])) (Nat.toDigits 10 a) (Nat.toDigits 10 b) := by
  obtain ⟨ha₁, ha₂, -⟩ := toDigits_literal a
  obtain ⟨hb₁, hb₂, -⟩ := toDigits_literal b
  exact ⟨⟨sign, hsign, by simp, hs⟩, ha₁, ha₂, hb₁, hb₂⟩

namespace Words

variable {w : Words}

theorem toNat_negPred {x : Int64} (hx : x < 0) :
    (-(x + 1)).toUInt64.toNat = (-x.toInt - 1).toNat := by
  have h₁ := x.le_toInt
  rw [Int64.lt_iff_toInt_lt, show (0 : Int64).toInt = 0 from rfl] at hx
  have hv : (-(x + 1)).toInt = -x.toInt - 1 := by
    rw [Int64.toInt_neg, Int64.toInt_add, show (1 : Int64).toInt = 1 from rfl]
    simp (disch := omega) only [bmod_word]
    omega
  have hnn : (0 : Int64) ≤ -(x + 1) := by
    rw [Int64.le_iff_toInt_le, hv, show (0 : Int64).toInt = 0 from rfl]
    omega
  rw [Int64.toNat_toUInt64_of_le hnn, ← hv]
  rfl

theorem toText_literal (hw : w.Normal) :
    ∃ neg secs nanos, Literal w.toText neg secs nanos ∧ decimal nanos < nanosPerSecond ∧
      denote neg (decimal secs) (decimal nanos) = w.value := by
  obtain ⟨hn₀, hn₁⟩ := hw
  simp only [nanosPerSecond, Nat.cast_ofNat] at hn₁
  have hs₀ := w.sec.le_toInt
  unfold toText
  split_ifs with hsec hnsec
  case pos =>
    rw [Int64.le_iff_toInt_le, show (0 : Int64).toInt = 0 from rfl] at hsec
    have hsign : ([] : List Char) ∈ [[], ['+'], ['-']] := by simp
    refine ⟨_, _, _, literal_of_digits hsign w.sec.toInt.toNat w.nsec.toInt.toNat ?_, ?_, ?_⟩
    · simp only [String.toList_append, toList_toString_int hsec, toList_toString_int hn₀,
        List.nil_append, List.append_assoc]
      rfl
    · rw [(toDigits_literal _).2.2]
      simp only [nanosPerSecond]
      omega
    · rw [(toDigits_literal _).2.2, (toDigits_literal _).2.2]
      have hplus : decide (([] : List Char) = ['-']) = false := by decide
      simp only [hplus, denote, value, nanosPerSecond, Bool.false_eq_true, ↓reduceIte]
      omega
  all_goals
    have hz : (0 : Int64).toInt = 0 := rfl
    rw [Int64.le_iff_toInt_le, hz] at hsec
    have hneg : w.sec < 0 := by
      rw [Int64.lt_iff_toInt_lt, hz]
      omega
    have hmag := toNat_negPred hneg
    have hminus : (['-'] : List Char) ∈ [[], ['+'], ['-']] := by simp
    dsimp only
  case pos =>
    refine ⟨_, _, _, literal_of_digits hminus ((-(w.sec + 1)).toUInt64 + 1).toNat
      (0 : Int64).toInt.toNat ?_, ?_, ?_⟩
    · simp only [String.toList_append, toList_toString_nat, toList_toString_int hz.ge,
        List.append_assoc]
      rfl
    · rw [(toDigits_literal _).2.2, hz]
      decide
    · rw [(toDigits_literal _).2.2, (toDigits_literal _).2.2, UInt64.toNat_add, hmag, hz]
      simp only [hnsec, denote, value, nanosPerSecond, decide_true, ↓reduceIte, Int32.toInt_zero,
        UInt64.toNat_one, Int.toNat_zero]
      omega
  case neg =>
    have hn : w.nsec.toInt ≠ 0 := fun h => hnsec (Int32.toInt_inj.1 h)
    have hrem : (1000000000 - w.nsec.toInt64).toInt = 1000000000 - w.nsec.toInt := by
      rw [Int64.toInt_sub, Int32.toInt_toInt64, show (1000000000 : Int64).toInt = 1000000000 from rfl]
      exact bmod_word (by omega) (by omega)
    refine ⟨_, _, _, literal_of_digits hminus (-(w.sec + 1)).toUInt64.toNat
      (1000000000 - w.nsec.toInt64).toInt.toNat ?_, ?_, ?_⟩
    · simp only [String.toList_append, toList_toString_nat,
        toList_toString_int (hrem ▸ (by omega : (0 : Int) ≤ 1000000000 - w.nsec.toInt)),
        List.append_assoc]
      rfl
    · rw [(toDigits_literal _).2.2, hrem]
      simp only [nanosPerSecond]
      omega
    · rw [(toDigits_literal _).2.2, (toDigits_literal _).2.2, hmag, hrem]
      simp only [denote, value, nanosPerSecond, decide_true, ↓reduceIte]
      omega

theorem parse_toText (hw : w.Normal) : parse w.toText = .ok w := by
  obtain ⟨neg, secs, nanos, hlit, hk, hval⟩ := toText_literal hw
  exact parse_eq_ok_iff.2 ⟨neg, secs, nanos, hlit, hk, hval ▸ representable_value hw, hw, hval.symm⟩

/-- A text reads as a stored form exactly when it is a literal whose value has a normalized
stored form, and it reads as that form; the text of every normalized form reads back as it. -/
theorem stamp_text_reads_exactly :
    (∀ (s : String) (w : Words), parse s = .ok w ↔
      ∃ neg secs nanos, Literal s neg secs nanos ∧ decimal nanos < nanosPerSecond ∧
        Representable (denote neg (decimal secs) (decimal nanos)) ∧ w.Normal ∧
          w.value = denote neg (decimal secs) (decimal nanos)) ∧
    ∀ w : Words, w.Normal → parse w.toText = .ok w :=
  ⟨fun _ _ => parse_eq_ok_iff, fun _ hw => parse_toText hw⟩

/-- The least second renders with a magnitude one past the greatest and reads back. -/
theorem parse_toText_least_second :
    parse (⟨Int64.minValue, 0⟩ : Words).toText = .ok ⟨Int64.minValue, 0⟩ :=
  stamp_text_reads_exactly.2 ⟨Int64.minValue, 0⟩ (by decide)

end Words

end MediaTimeline.Stamp
