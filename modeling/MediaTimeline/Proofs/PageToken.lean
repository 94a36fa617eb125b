import Mathlib
import MediaTimeline.Paging
import MediaTimeline.Proofs.TextCodecs

/-! Page tokens read back. -/

namespace MediaTimeline

namespace Json

open Text

variable {acc r : List UInt8}

/-! Strings: a literal's bytes, after its opening quote, read back as its text. -/

theorem readString_quote : readString acc (0x22 :: r) = .ok (stringOfUtf8 acc.reverse, r) := by
  rw [readString]

theorem readString_plain {b : UInt8} (hb : 0x20 ≤ b.toNat) (h1 : b ≠ 0x22) (h2 : b ≠ 0x5C) :
    readString acc (b :: r) = readString (b :: acc) r := by
  rw [readString.eq_5 _ _ _ h1 h2, if_neg (by simp [UInt8.lt_iff_toNat_lt]; omega)]

theorem readString_short {e b : UInt8} (he : e ≠ 0x75) (hs : shortEscape e = some b) :
    readString acc (0x5C :: e :: r) = readString (b :: acc) r := by
  rw [readString]
  simp [he, hs]

theorem readString_unicode {h1 h2 h3 h4 : UInt8} {n : Nat} (hx : hex4 [h1, h2, h3, h4] = some n)
    (hn : n < 0xD800 ∨ 0xE000 ≤ n) :
    readString acc (0x5C :: 0x75 :: h1 :: h2 :: h3 :: h4 :: r) =
      readString ((utf8OfCode n).reverse ++ acc) r := by
  have hpair : surrogatePair n r = (n, r) := by
    unfold surrogatePair
    rw [if_neg (by simp; omega), if_neg (by simp; omega)]
  rw [readString, if_pos rfl, if_neg (by simp)]
  simp only [List.take_succ_cons, List.take_zero, List.drop_succ_cons, List.drop_zero, hx, hpair]
  rw [dif_pos (by simp; omega)]

theorem readString_plains {bs : List UInt8}
    (h : ∀ b ∈ bs, 0x20 ≤ b.toNat ∧ b ≠ 0x22 ∧ b ≠ 0x5C) :
    readString acc (bs ++ r) = readString (bs.reverse ++ acc) r := by
  induction bs generalizing acc with
  | nil => rfl
  | cons b bs ih =>
    obtain ⟨h1, h2, h3⟩ := h b List.mem_cons_self
    rw [List.cons_append, readString_plain h1 h2 h3,
      ih fun x hx => h x (List.mem_cons_of_mem b hx), List.reverse_cons, List.append_assoc,
      List.singleton_append]

theorem utf8OfCode_toNat (c : Char) : utf8OfCode c.toNat = String.utf8EncodeChar c := by
  rw [utf8OfCode, Char.ofNat_toNat]
  show utf8Bytes _ = _
  rw [utf8Bytes_eq, String.toList_singleton, List.flatMap_singleton]

theorem hexEscape_control : ∀ n < 0x20,
    hex4 ((hexPadded 4 n).flatMap String.utf8EncodeChar) = some n ∧
      ((hexPadded 4 n).flatMap String.utf8EncodeChar).length = 4 := by
  decide +kernel

theorem hexEscape_html : ∀ n ∈ [0x3C, 0x3E, 0x26, 0x2028, 0x2029],
    hex4 ((hexPadded 4 n).flatMap String.utf8EncodeChar) = some n ∧
      ((hexPadded 4 n).flatMap String.utf8EncodeChar).length = 4 := by
  decide +kernel

theorem readString_hexEscape {c : Char}
    (hc : hex4 ((hexPadded 4 c.toNat).flatMap String.utf8EncodeChar) = some c.toNat ∧
      ((hexPadded 4 c.toNat).flatMap String.utf8EncodeChar).length = 4)
    (hs : c.toNat < 0xD800) :
    readString acc (('\\' :: 'u' :: hexPadded 4 c.toNat).flatMap String.utf8EncodeChar ++ r) =
      readString ((String.utf8EncodeChar c).reverse ++ acc) r := by
  obtain ⟨hx, hlen⟩ := hc
  generalize hd : (hexPadded 4 c.toNat).flatMap String.utf8EncodeChar = ds at hx hlen
  match ds, hlen with
  | [d1, d2, d3, d4], _ =>
    rw [List.flatMap_cons, List.flatMap_cons, hd]
    show readString acc (0x5C :: 0x75 :: d1 :: d2 :: d3 :: d4 :: r) = _
    rw [readString_unicode hx (.inl hs), utf8OfCode_toNat]

/-- However a character is written in a literal, the reader takes its bytes. The cases are those
of the writer: a short escape, four hex digits, or the character itself. -/
theorem readString_escapeChar (c : Char) :
    readString acc ((JsonValue.escapeChar c).flatMap String.utf8EncodeChar ++ r) =
      readString ((String.utf8EncodeChar c).reverse ++ acc) r := by
  unfold JsonValue.escapeChar
  split_ifs with h1 h2 h3 h4 h5 h6 h7 h8
  · subst h1; exact readString_short (by decide) rfl
  · subst h2; exact readString_short (by decide) rfl
  · subst h3; exact readString_short (by decide) rfl
  · subst h4; exact readString_short (by decide) rfl
  · subst h5; exact readString_short (by decide) rfl
  · subst h6; exact readString_short (by decide) rfl
  · subst h7; exact readString_short (by decide) rfl
  · simp only [Bool.or_eq_true, decide_eq_true_eq] at h8
    have htab := hexEscape_html
    simp only [List.mem_cons, List.not_mem_nil, or_false, forall_eq_or_imp, forall_eq] at htab
    rcases h8 with (((((h | rfl) | rfl) | rfl) | h) | h)
    · exact readString_hexEscape (hexEscape_control _ h) (by omega)
    · exact readString_hexEscape htab.1 (by decide)
    · exact readString_hexEscape htab.2.1 (by decide)
    · exact readString_hexEscape htab.2.2.1 (by decide)
    · exact readString_hexEscape (h ▸ htab.2.2.2.1) (by omega)
    · exact readString_hexEscape (h ▸ htab.2.2.2.2) (by omega)
  · -- any other character stands for itself, with bytes that end no literal and start no escape
    simp only [Bool.or_eq_true, decide_eq_true_eq, not_or] at h8
    rw [List.flatMap_singleton, readString_plains]
    intro b hb
    by_cases ha : c.toNat < 128
    · rw [utf8EncodeChar_of_lt ha, List.mem_singleton] at hb
      subst hb
      have h34 : c.toNat ≠ 34 := fun h => h1 (Char.toNat_inj.1 h)
      have h92 : c.toNat ≠ 92 := fun h => h2 (Char.toNat_inj.1 h)
      simp only [UInt8.toNat_ofNat', ne_eq, ← UInt8.toNat_inj, UInt8.reduceToNat]
      omega
    · have := le_of_mem_utf8EncodeChar (by omega) hb
      refine ⟨by omega, fun h => ?_, fun h => ?_⟩ <;> subst h <;> simp at this

theorem readString_escaped (cs : List Char) :
    readString acc ((cs.flatMap JsonValue.escapeChar).flatMap String.utf8EncodeChar ++ 0x22 :: r) =
      .ok (stringOfUtf8 (acc.reverse ++ cs.flatMap String.utf8EncodeChar), r) := by
  induction cs generalizing acc with
  | nil => simp [readString_quote]
  | cons c cs ih =>
    rw [List.flatMap_cons, List.flatMap_append, List.append_assoc, readString_escapeChar, ih,
      List.reverse_append, List.reverse_reverse, List.append_assoc, List.flatMap_cons]

theorem readString_literal (s : String) (r : List UInt8) :
    readString [] ((s.toList.flatMap JsonValue.escapeChar).flatMap String.utf8EncodeChar ++
      0x22 :: r) = .ok (s, r) := by
  rw [readString_escaped, List.reverse_nil, List.nil_append, ← utf8Bytes_eq,
    stringOfUtf8_utf8Bytes]

/-! Integers: the decimal literal of an integer reads back as it. -/

theorem isDigit_toNat {c : Char} (h : c.isDigit = true) : 48 ≤ c.toNat ∧ c.toNat ≤ 57 := by
  simp [Char.isDigit, UInt32.le_iff_toNat_le] at h
  exact h

theorem head_toDigits (m : Nat) : ∃ d ds, Nat.toDigits 10 m = d :: ds ∧ (d = '0' → m = 0) := by
  induction m using Nat.strong_induction_on with
  | _ m ih =>
    rw [Nat.toDigits_eq_if (by omega)]
    split_ifs with h
    · refine ⟨_, [], rfl, fun hd => ?_⟩
      interval_cases m <;> simp_all [Nat.digitChar]
    · obtain ⟨d, ds, hds, hd⟩ := ih (m / 10) (by omega)
      refine ⟨d, ds ++ [Nat.digitChar (m % 10)], by rw [hds, List.cons_append], fun h0 => ?_⟩
      have := hd h0
      omega

theorem isDigitByte_of_isDigit {c : Char} (h : c.isDigit = true) :
    isDigitByte (UInt8.ofNat c.toNat) = true := by
  have := isDigit_toNat h
  simp [isDigitByte, UInt8.le_iff_toNat_le]
  omega

def Closes (rest : List UInt8) : Prop :=
  rest = [] ∨ ∃ r, rest = 0x2C :: r ∨ rest = 0x5D :: r ∨ rest = 0x7D :: r

theorem Closes.not_digit {rest : List UInt8} (hr : Closes rest) :
    ∀ b ∈ rest.head?, isDigitByte b = false := by
  rcases hr with rfl | ⟨r, rfl | rfl | rfl⟩ <;> simp [isDigitByte]

theorem takeWhile_digits (ds : List UInt8) (h : ∀ b ∈ ds, isDigitByte b = true)
    {rest : List UInt8} (hr : ∀ b ∈ rest.head?, isDigitByte b = false) :
    (ds ++ rest).takeWhile isDigitByte = ds ∧ (ds ++ rest).dropWhile isDigitByte = rest := by
  induction ds with
  | nil =>
    cases rest with
    | nil => simp
    | cons b r => simp [hr b rfl]
  | cons d ds ih =>
    obtain ⟨h1, h2⟩ := ih fun b hb => h b (List.mem_cons_of_mem d hb)
    simp [h d List.mem_cons_self, h1, h2]

theorem readNumberBody_digits (m : Nat) {rest : List UInt8} (hr : Closes rest) :
    readNumberBody ((Nat.toDigits 10 m).map (fun c => UInt8.ofNat c.toNat) ++ rest) =
      .ok ((Nat.toDigits 10 m).map (fun c => UInt8.ofNat c.toNat), rest) := by
  obtain ⟨d, ds, hds, hd⟩ := head_toDigits m
  have hdig : ∀ c ∈ Nat.toDigits 10 m, c.isDigit = true :=
    fun c hc => Nat.isDigit_of_mem_toDigits (by omega) (by omega) hc
  by_cases h0 : d = '0'
  · -- only zero starts with a zero, and it has no other digit
    have hm := hd h0
    subst hm
    rw [Nat.toDigits_zero]
    rcases hr with rfl | ⟨r, rfl | rfl | rfl⟩ <;> rfl
  · rw [hds] at hdig ⊢
    have hdd := isDigitByte_of_isDigit (hdig d List.mem_cons_self)
    have hd30 : UInt8.ofNat d.toNat ≠ 0x30 := by
      intro h
      apply h0
      have := isDigit_toNat (hdig d List.mem_cons_self)
      rw [← UInt8.toNat_inj, UInt8.toNat_ofNat'] at h
      exact Char.toNat_inj.1 (by simp at h ⊢; omega)
    obtain ⟨ht, hdr⟩ := takeWhile_digits (ds.map fun c => UInt8.ofNat c.toNat)
      (fun b hb => by
        obtain ⟨c, hc, rfl⟩ := List.mem_map.1 hb
        exact isDigitByte_of_isDigit (hdig c (List.mem_cons_of_mem d hc))) hr.not_digit
    simp only [List.map_cons, List.cons_append, readNumberBody]
    split
    · next r heq => exact absurd (List.cons.inj heq).1 hd30
    · simp only [readDigits, hdd, if_true, ht, hdr]
      rcases hr with rfl | ⟨r, rfl | rfl | rfl⟩ <;> simp [bind, Except.bind, pure, Except.pure]

/-! Values: a string literal and an integer literal, and the members of an object, read back
as what they were written from. -/

theorem skipBlanks_of_not_blank {b : UInt8} (hb : isBlankByte b = false) (r : List UInt8) :
    skipBlanks (b :: r) = b :: r := by
  rw [skipBlanks, hb, if_neg Bool.false_ne_true]

theorem utf8Bytes_quote (s : String) :
    utf8Bytes (JsonValue.quote s) =
      0x22 :: (s.toList.flatMap JsonValue.escapeChar).flatMap String.utf8EncodeChar ++ [0x22] := by
  rw [JsonValue.quote, utf8Bytes_ofList, List.flatMap_cons, List.flatMap_append]
  rfl

theorem readValue_quote (fuel depth : Nat) (s : String) (r : List UInt8) :
    readValue (fuel + 1) depth (utf8Bytes (JsonValue.quote s) ++ r) = .ok (.str s, r) := by
  simp only [utf8Bytes_quote, List.cons_append, List.append_assoc, List.nil_append]
  rw [readValue, skipBlanks_of_not_blank (by decide)]
  simp [readString_literal, Except.map]

theorem readValue_digit {b : UInt8} (hb : 48 ≤ b.toNat ∧ b.toNat ≤ 57) (fuel depth : Nat)
    (r : List UInt8) :
    readValue (fuel + 1) depth (b :: r) = (readNumberBody (b :: r)).map fun (lit, rest) =>
      (.num (String.ofList (lit.map (Char.ofNat ·.toNat))), rest) := by
  have hne : ∀ c : UInt8, (c.toNat < 48 ∨ 57 < c.toNat) → b ≠ c := by
    rintro c hc rfl
    omega
  rw [readValue, skipBlanks_of_not_blank (by simp [isBlankByte, hne 0x20 (by decide),
      hne 0x09 (by decide), hne 0x0A (by decide), hne 0x0D (by decide)])]
  dsimp only
  rw [if_neg (hne 123 (by decide)), if_neg (hne 91 (by decide)), if_neg (hne 34 (by decide)),
    if_neg (hne 45 (by decide)), if_pos (by simp [isDigitByte, UInt8.le_iff_toNat_le]; omega)]

theorem readValue_minus (fuel depth : Nat) (r : List UInt8) :
    readValue (fuel + 1) depth (0x2D :: r) = (readNumberBody r).map fun (lit, rest) =>
      (.num (String.ofList ('-' :: lit.map (Char.ofNat ·.toNat))), rest) := by
  rw [readValue, skipBlanks_of_not_blank (by decide)]
  rfl

theorem digits_bytes (m : Nat) :
    ((Nat.toDigits 10 m).map fun c => UInt8.ofNat c.toNat).map (Char.ofNat ·.toNat) =
      Nat.toDigits 10 m := by
  conv_rhs => rw [← List.map_id (Nat.toDigits 10 m)]
  rw [List.map_map]
  refine List.map_congr_left fun c hc => ?_
  have hc := isDigit_toNat (Nat.isDigit_of_mem_toDigits (by omega) (by omega) hc)
  simp only [Function.comp_apply, UInt8.toNat_ofNat', Nat.mod_eq_of_lt (by omega : c.toNat < 256),
    Char.ofNat_toNat, id]

theorem utf8Bytes_digits (m : Nat) :
    utf8Bytes (String.ofList (Nat.toDigits 10 m)) =
      (Nat.toDigits 10 m).map fun c => UInt8.ofNat c.toNat := by
  rw [utf8Bytes_ofList, flatMap_utf8EncodeChar_of_ascii fun c hc => by
    have := isDigit_toNat (Nat.isDigit_of_mem_toDigits (by omega) (by omega) hc)
    omega]

theorem readValue_digits (fuel depth m : Nat) {rest : List UInt8} (hr : Closes rest) :
    readValue (fuel + 1) depth (((Nat.toDigits 10 m).map fun c => UInt8.ofNat c.toNat) ++ rest) =
      .ok (.num (String.ofList (Nat.toDigits 10 m)), rest) := by
  obtain ⟨d, ds, hds, -⟩ := head_toDigits m
  have hd := isDigit_toNat (Nat.isDigit_of_mem_toDigits (by omega) (by omega)
    (hds ▸ List.mem_cons_self : d ∈ Nat.toDigits 10 m))
  have hb : 48 ≤ (UInt8.ofNat d.toNat).toNat ∧ (UInt8.ofNat d.toNat).toNat ≤ 57 := by
    simp only [UInt8.toNat_ofNat', Nat.mod_eq_of_lt (by omega : d.toNat < 256)]
    exact hd
  have hbytes : ((Nat.toDigits 10 m).map fun c => UInt8.ofNat c.toNat) ++ rest =
      UInt8.ofNat d.toNat :: ((ds.map fun c => UInt8.ofNat c.toNat) ++ rest) := by
    rw [hds]
    rfl
  rw [hbytes, readValue_digit hb, ← hbytes, readNumberBody_digits m hr]
  simp only [Except.map]
  rw [digits_bytes]

theorem readValue_int (fuel depth : Nat) (n : Int) {rest : List UInt8} (hr : Closes rest) :
    readValue (fuel + 1) depth (utf8Bytes (toString n) ++ rest) = .ok (.num (toString n), rest) := by
  cases n with
  | ofNat m =>
    show readValue _ _ (utf8Bytes (String.ofList (Nat.toDigits 10 m)) ++ _) =
      .ok (.num (String.ofList (Nat.toDigits 10 m)), _)
    rw [utf8Bytes_digits, readValue_digits _ _ _ hr]
  | negSucc m =>
    show readValue _ _ (utf8Bytes ("-" ++ String.ofList (Nat.toDigits 10 (m + 1))) ++ _) =
      .ok (.num ("-" ++ String.ofList (Nat.toDigits 10 (m + 1))), _)
    have hminus : utf8Bytes "-" = [0x2D] := by
      rw [show ("-" : String) = String.ofList ['-'] from rfl, utf8Bytes_ofList]
      rfl
    rw [utf8Bytes_append, utf8Bytes_digits, hminus, List.singleton_append, List.cons_append,
      readValue_minus, readNumberBody_digits _ hr]
    have hlit : "-" ++ String.ofList (Nat.toDigits 10 (m + 1)) =
        String.ofList ('-' :: Nat.toDigits 10 (m + 1)) := by
      rw [← String.toList_inj]
      simp
    simp only [Except.map]
    rw [digits_bytes, hlit]

theorem foldl_toDigits (m : Nat) :
    (Nat.toDigits 10 m).foldl (fun acc d => acc * 10 + (d.toNat - 48)) 0 = m := by
  induction m using Nat.strong_induction_on with
  | _ m ih =>
    rw [Nat.toDigits_eq_if (by omega)]
    split_ifs with h
    · interval_cases m <;> rfl
    · rw [List.foldl_append, ih (m / 10) (by omega), List.foldl_cons, List.foldl_nil]
      have hd : (Nat.digitChar (m % 10)).toNat = 48 + m % 10 := by
        have := Nat.mod_lt m (by omega : 10 > 0)
        interval_cases m % 10 <;> rfl
      omega

theorem toDigits_digits (m : Nat) :
    (!(Nat.toDigits 10 m).isEmpty && (Nat.toDigits 10 m).all Char.isDigit) = true := by
  obtain ⟨d, ds, hds, -⟩ := head_toDigits m
  simp only [Bool.and_eq_true, Bool.not_eq_true', List.isEmpty_eq_false_iff, List.all_eq_true]
  exact ⟨by simp [hds], fun c hc => Nat.isDigit_of_mem_toDigits (by omega) (by omega) hc⟩

theorem literalInt_toString {n lo hi : Int} (h : lo ≤ n ∧ n ≤ hi) :
    literalInt (toString n) lo hi = some n := by
  unfold literalInt
  cases n with
  | ofNat m =>
    have hlit : (toString (Int.ofNat m)).toList = Nat.toDigits 10 m := by
      show (String.ofList _).toList = _
      rw [String.toList_ofList]
    obtain ⟨d, ds, hds, -⟩ := head_toDigits m
    rw [hlit, hds]
    split
    · -- a number's first digit is no minus sign
      rename_i heq
      have hd := Nat.isDigit_of_mem_toDigits (by omega) (by omega)
        (hds ▸ List.mem_cons_self : d ∈ Nat.toDigits 10 m)
      rw [(List.cons.inj heq).1] at hd
      exact absurd hd (by decide)
    · rw [← hds]
      simp [toDigits_digits, foldl_toDigits]
      exact h
  | negSucc m =>
    have hlit : (toString (Int.negSucc m)).toList = '-' :: Nat.toDigits 10 (m + 1) := by
      show ("-" ++ String.ofList _).toList = _
      simp [String.toList_append]
    rw [hlit]
    simp only [Int.negSucc_eq] at h
    simp [toDigits_digits, foldl_toDigits]
    omega

/-- A member read up to its value, and the byte after the value: a comma reads the next member,
a closing brace ends the object. -/
theorem readFields_member (fuel depth : Nat) (acc : List (String × JsonValue)) (key : String)
    {vb : List UInt8} {v : JsonValue} {d : UInt8} {r : List UInt8}
    (hv : readValue fuel depth vb = .ok (v, d :: r)) (hd : isBlankByte d = false) :
    readFields (fuel + 1) depth acc (utf8Bytes (JsonValue.quote key) ++ 0x3A :: vb) =
      if d = 0x2C then readFields fuel depth ((key, v) :: acc) r
      else if d = 0x7D then .ok (.obj ((key, v) :: acc).reverse, r)
      else .error (.at (d :: r) "after object key:value pair") := by
  simp only [utf8Bytes_quote, List.cons_append, List.append_assoc, List.nil_append]
  rw [readFields, skipBlanks_of_not_blank (by decide)]
  simp [readString_literal, skipBlanks_of_not_blank (b := 0x3A) (by decide), hv,
    skipBlanks_of_not_blank hd, bind, Except.bind]

theorem readObject_quote (fuel depth : Nat) (key : String) (r : List UInt8) :
    readObject (fuel + 1) depth (utf8Bytes (JsonValue.quote key) ++ r) =
      readFields fuel depth [] (utf8Bytes (JsonValue.quote key) ++ r) := by
  simp only [utf8Bytes_quote, List.cons_append]
  rw [readObject, skipBlanks_of_not_blank (by decide)]
  rfl

end Json

/-! Tokens: a key's document reads back as the key, and so does its token. -/

namespace SegmentKey

open Text Json

theorem utf8Bytes_ascii (c : Char) (h : c.toNat < 128) :
    utf8Bytes (String.ofList [c]) = [UInt8.ofNat c.toNat] := by
  rw [utf8Bytes_ofList, List.flatMap_singleton, utf8EncodeChar_of_lt h]

theorem utf8Bytes_render_toDoc (k : SegmentKey) :
    utf8Bytes k.toDoc.render =
      0x7B :: (utf8Bytes (JsonValue.quote "flow_id") ++
        0x3A :: (utf8Bytes (JsonValue.quote k.flow) ++
        0x2C :: (utf8Bytes (JsonValue.quote "timerange_end") ++
          0x3A :: (utf8Bytes (toString k.stop) ++ [0x7D])))) := by
  simp only [toDoc, JsonValue.render, JsonValue.renderFields, JsonValue.int, utf8Bytes_append]
  simp only [show ("\x7b" : String) = String.ofList ['{'] from rfl,
    show ("\x7d" : String) = String.ofList ['}'] from rfl,
    show (":" : String) = String.ofList [':'] from rfl,
    show ("," : String) = String.ofList [','] from rfl,
    utf8Bytes_ascii _ (by decide : '{'.toNat < 128),
    utf8Bytes_ascii _ (by decide : '}'.toNat < 128),
    utf8Bytes_ascii _ (by decide : ':'.toNat < 128),
    utf8Bytes_ascii _ (by decide : ','.toNat < 128)]
  simp

theorem readJson_toDoc (k : SegmentKey) :
    readJson (utf8Bytes k.toDoc.render) =
      .ok (.obj [("flow_id", .str k.flow), ("timerange_end", .num (toString k.stop))]) := by
  obtain ⟨m, hm⟩ : ∃ m, 4 * (utf8Bytes k.toDoc.render).length + 4 = m + 5 :=
    ⟨4 * (utf8Bytes k.toDoc.render).length - 1, by rw [utf8Bytes_render_toDoc]; simp; omega⟩
  have hfields := readFields_member (m + 1) 1 [("flow_id", .str k.flow)] "timerange_end"
    (readValue_int m 1 k.stop (.inr ⟨[], .inr (.inr rfl)⟩)) (by decide)
  have hobj := readFields_member (m + 2) 1 [] "flow_id"
    (readValue_quote (m + 1) 1 k.flow (0x2C :: (utf8Bytes (JsonValue.quote "timerange_end") ++
      0x3A :: (utf8Bytes (toString k.stop) ++ [0x7D])))) (by decide)
  rw [readJson, hm, utf8Bytes_render_toDoc, readValue, skipBlanks_of_not_blank (by decide)]
  simp only [show ¬ (0 ≥ maxDepth) by decide, if_false]
  rw [readObject_quote, hobj, if_pos rfl, hfields]
  rfl

theorem decodeRecord_toDoc (k : SegmentKey) (hk : IsInt64 k.stop) :
    decodeRecord "SegmentKey" "types.SegmentKey" docRules ⟨"", 0⟩
      (.obj [("flow_id", .str k.flow), ("timerange_end", .num (toString k.stop))]) = .ok k := by
  have hlit : literalInt k.stop.repr (-9223372036854775808) 9223372036854775807 = some k.stop :=
    literalInt_toString hk
  simp [decodeRecord, ruleFor, docRules, decodeText, decodeInt, hlit, Except.map, bind,
    Except.bind]
  rfl

/-- A token reads back as the key it was made from, when the key has a flow; a token of a key
without a flow is refused. -/
theorem ofToken_toToken (k : SegmentKey) (hk : IsInt64 k.stop) :
    ofToken k.toToken = if k.flow.isEmpty then .error .pageWithoutFlow else .ok k := by
  unfold ofToken toToken
  rw [decodeBase64Url_encodeBase64Url]
  simp only [decodeRecordText, readJson_toDoc, decodeRecord_toDoc k hk]

end SegmentKey

end MediaTimeline
