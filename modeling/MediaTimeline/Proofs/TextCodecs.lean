import Mathlib
import MediaTimeline.Text.Base64
import MediaTimeline.Text.Utf8

/-! Reading back what the text codecs write. -/

namespace MediaTimeline.Text

/-! The bytes of a text. -/

theorem toList_loop (bs : ByteArray) (i : Nat) (r : List UInt8) :
    ByteArray.toList.loop bs i r = r.reverse ++ bs.data.toList.drop i := by
  induction i, r using ByteArray.toList.loop.induct bs with
  | case1 i r hi ih =>
    rw [ByteArray.toList.loop, if_pos hi, ih]
    have hlt : i < bs.data.toList.length := by simpa using hi
    have hget : bs.get! i = bs.data.toList[i] := by
      simp [ByteArray.get!, hi]
    rw [hget, List.reverse_cons, List.append_assoc, List.singleton_append,
      ← List.drop_eq_getElem_cons]
  | case2 i r hi =>
    rw [ByteArray.toList.loop, if_neg hi, List.drop_eq_nil_of_le (by simpa using hi),
      List.append_nil]

theorem toList_eq (bs : ByteArray) : bs.toList = bs.data.toList := by
  rw [ByteArray.toList, toList_loop]
  rfl

theorem utf8Bytes_eq (s : String) : utf8Bytes s = s.toList.flatMap String.utf8EncodeChar := by
  rw [utf8Bytes, toList_eq, String.toUTF8_eq_toByteArray, ← String.ofList_toList (s := s),
    String.toByteArray_ofList, String.toList_ofList, List.utf8Encode, List.toList_data_toByteArray]

theorem utf8Bytes_ofList (cs : List Char) :
    utf8Bytes (String.ofList cs) = cs.flatMap String.utf8EncodeChar := by
  rw [utf8Bytes_eq, String.toList_ofList]

theorem utf8Bytes_append (s t : String) : utf8Bytes (s ++ t) = utf8Bytes s ++ utf8Bytes t := by
  rw [utf8Bytes_eq, utf8Bytes_eq, utf8Bytes_eq, String.toList_append, List.flatMap_append]

theorem utf8EncodeChar_of_lt {c : Char} (h : c.toNat < 128) :
    String.utf8EncodeChar c = [UInt8.ofNat c.toNat] := by
  unfold String.utf8EncodeChar
  rw [if_pos (by simp only [Char.toNat_val]; omega)]
  rfl

theorem flatMap_utf8EncodeChar_of_ascii {cs : List Char} (h : ∀ c ∈ cs, c.toNat < 128) :
    cs.flatMap String.utf8EncodeChar = cs.map fun c => UInt8.ofNat c.toNat := by
  induction cs with
  | nil => rfl
  | cons c cs ih =>
    rw [List.flatMap_cons, utf8EncodeChar_of_lt (h c List.mem_cons_self),
      ih (fun d hd => h d (List.mem_cons_of_mem c hd)), List.map_cons, List.singleton_append]

theorem le_of_mem_utf8EncodeChar {c : Char} (h : 128 ≤ c.toNat) {b : UInt8}
    (hb : b ∈ String.utf8EncodeChar c) : 0x80 ≤ b.toNat := by
  unfold String.utf8EncodeChar at hb
  simp only [Char.toNat_val] at hb
  split_ifs at hb <;> simp only [List.mem_cons, List.not_mem_nil, or_false] at hb <;>
    rcases hb with rfl | rfl | rfl | rfl <;> simp <;> omega

/-! Reading UTF-8 back. -/

theorem toNat_and_low (b : UInt8) {m : UInt8} {k : Nat} (hm : m.toNat = 2 ^ k - 1) :
    (b &&& m).toNat = b.toNat % 2 ^ k := by
  rw [UInt8.toNat_and, hm, Nat.and_two_pow_sub_one_eq_mod]

theorem payload_eq (b : UInt8) : payload b = b.toNat % 64 := toNat_and_low b (k := 6) rfl

theorem isContinuation_iff (b : UInt8) :
    isContinuation b = true ↔ 0x80 ≤ b.toNat ∧ b.toNat ≤ 0xBF := by
  simp [isContinuation, UInt8.le_iff_toNat_le]

theorem decodeUtf8_nil : decodeUtf8 [] = [] := by
  rw [decodeUtf8]

theorem decodeUtf8_cons (b0 : UInt8) (r : List UInt8) :
    decodeUtf8 (b0 :: r) = if b0 < 0x80 then Char.ofNat b0.toNat :: decodeUtf8 r
      else (leadChar b0 r).1 :: decodeUtf8 (r.drop ((leadChar b0 r).2 - 1)) := by
  rw [decodeUtf8]

theorem leadChar_two {b0 b1 : UInt8} (r : List UInt8) (h0 : 0xC2 ≤ b0.toNat ∧ b0.toNat ≤ 0xDF)
    (h1 : 0x80 ≤ b1.toNat ∧ b1.toNat ≤ 0xBF) :
    leadChar b0 (b1 :: r) = (Char.ofNat (b0.toNat % 32 * 64 + b1.toNat % 64), 2) := by
  rw [leadChar, if_pos (by simp [UInt8.le_iff_toNat_le]; omega),
    if_pos ((isContinuation_iff b1).2 h1), toNat_and_low b0 (k := 5) rfl, payload_eq]
  rfl

theorem leadChar_three {b0 b1 b2 : UInt8} (r : List UInt8) (h0 : 0xE0 ≤ b0.toNat ∧ b0.toNat ≤ 0xEF)
    (h1 : 0x80 ≤ b1.toNat ∧ b1.toNat ≤ 0xBF) (hlo : b0.toNat = 0xE0 → 0xA0 ≤ b1.toNat)
    (hhi : b0.toNat = 0xED → b1.toNat ≤ 0x9F) (h2 : 0x80 ≤ b2.toNat ∧ b2.toNat ≤ 0xBF) :
    leadChar b0 (b1 :: b2 :: r) =
      (Char.ofNat (b0.toNat % 16 * 4096 + b1.toNat % 64 * 64 + b2.toNat % 64), 3) := by
  rw [leadChar, if_neg (by simp [UInt8.le_iff_toNat_le]; omega),
    if_pos (by simp [UInt8.le_iff_toNat_le]; omega)]
  dsimp only
  rw [if_pos, toNat_and_low b0 (k := 4) rfl, payload_eq, payload_eq]
  · rfl
  simp only [Bool.and_eq_true, decide_eq_true_eq, isContinuation_iff, UInt8.le_iff_toNat_le,
    ← UInt8.toNat_inj]
  refine ⟨⟨?_, ?_⟩, h2⟩
  · split_ifs with h <;> simp_all
  · split_ifs with h <;> simp_all

theorem leadChar_four {b0 b1 b2 b3 : UInt8} (r : List UInt8)
    (h0 : 0xF0 ≤ b0.toNat ∧ b0.toNat ≤ 0xF4) (h1 : 0x80 ≤ b1.toNat ∧ b1.toNat ≤ 0xBF)
    (hlo : b0.toNat = 0xF0 → 0x90 ≤ b1.toNat) (hhi : b0.toNat = 0xF4 → b1.toNat ≤ 0x8F)
    (h2 : 0x80 ≤ b2.toNat ∧ b2.toNat ≤ 0xBF) (h3 : 0x80 ≤ b3.toNat ∧ b3.toNat ≤ 0xBF) :
    leadChar b0 (b1 :: b2 :: b3 :: r) =
      (Char.ofNat (b0.toNat % 8 * 262144 + b1.toNat % 64 * 4096 + b2.toNat % 64 * 64 +
        b3.toNat % 64), 4) := by
  rw [leadChar, if_neg (by simp [UInt8.le_iff_toNat_le]; omega),
    if_neg (by simp [UInt8.le_iff_toNat_le]; omega),
    if_pos (by simp [UInt8.le_iff_toNat_le]; omega)]
  dsimp only
  rw [if_pos, toNat_and_low b0 (k := 3) rfl, payload_eq, payload_eq, payload_eq]
  · rfl
  simp only [Bool.and_eq_true, decide_eq_true_eq, isContinuation_iff, UInt8.le_iff_toNat_le,
    ← UInt8.toNat_inj]
  refine ⟨⟨⟨?_, ?_⟩, h2⟩, h3⟩
  · split_ifs with h <;> simp_all
  · split_ifs with h <;> simp_all

/-- The reader takes the encoding of a character back to the character. The cases are the four
lengths of an encoding; a character is no surrogate, which the range checks of a three-byte
sequence rely on. -/
theorem decodeUtf8_utf8EncodeChar_append (c : Char) (r : List UInt8) :
    decodeUtf8 (String.utf8EncodeChar c ++ r) = c :: decodeUtf8 r := by
  have hc : c.toNat < 0xd800 ∨ (0xdfff < c.toNat ∧ c.toNat < 0x110000) := c.valid
  have hback : ∀ n, n = c.toNat → Char.ofNat n = c := fun n hn => hn ▸ Char.ofNat_toNat c
  unfold String.utf8EncodeChar
  simp only [Char.toNat_val]
  split_ifs with h1 h2 h3
  · rw [List.cons_append, List.nil_append, decodeUtf8_cons,
      if_pos (by simp [UInt8.lt_iff_toNat_lt]; omega), hback _ (by simp; omega)]
  · simp only [List.cons_append, List.nil_append]
    rw [decodeUtf8_cons, if_neg (by simp [UInt8.lt_iff_toNat_lt]; omega),
      leadChar_two _ (by simp; omega) (by simp; omega)]
    simp only [UInt8.toNat_ofNat']
    rw [hback _ (by omega)]
    simp
  · simp only [List.cons_append, List.nil_append]
    rw [decodeUtf8_cons, if_neg (by simp [UInt8.lt_iff_toNat_lt]; omega),
      leadChar_three _ (by simp; omega) (by simp; omega) (by simp; omega) (by simp; omega)
        (by simp; omega)]
    simp only [UInt8.toNat_ofNat']
    rw [hback _ (by omega)]
    simp
  · simp only [List.cons_append, List.nil_append]
    rw [decodeUtf8_cons, if_neg (by simp [UInt8.lt_iff_toNat_lt]; omega),
      leadChar_four _ (by simp; omega) (by simp; omega) (by simp; omega) (by simp; omega)
        (by simp; omega) (by simp; omega)]
    simp only [UInt8.toNat_ofNat']
    rw [hback _ (by omega)]
    simp

theorem decodeUtf8_flatMap (cs : List Char) :
    decodeUtf8 (cs.flatMap String.utf8EncodeChar) = cs := by
  induction cs with
  | nil => exact decodeUtf8_nil
  | cons c cs ih => rw [List.flatMap_cons, decodeUtf8_utf8EncodeChar_append, ih]

@[simp] theorem stringOfUtf8_utf8Bytes (s : String) : stringOfUtf8 (utf8Bytes s) = s := by
  rw [stringOfUtf8, utf8Bytes_eq, decodeUtf8_flatMap, String.ofList_toList]

/-! Reading base64 back. -/

theorem sextetChar_table :
    ∀ n < 64, sextetValue (UInt8.ofNat (sextetChar n).toNat) = some n ∧
      (sextetChar n).toNat < 128 := by
  decide +kernel

theorem sextetChar_mod (n : Nat) : sextetChar (n % 64) = sextetChar n := by
  simp [sextetChar]

theorem sextetValue_sextetChar (n : Nat) :
    sextetValue (UInt8.ofNat (sextetChar n).toNat) = some (n % 64) := by
  rw [← sextetChar_mod]
  exact (sextetChar_table (n % 64) (Nat.mod_lt _ (by omega))).1

theorem utf8EncodeChar_sextetChar (n : Nat) :
    String.utf8EncodeChar (sextetChar n) = [UInt8.ofNat (sextetChar n).toNat] := by
  rw [← sextetChar_mod]
  exact utf8EncodeChar_of_lt (sextetChar_table (n % 64) (Nat.mod_lt _ (by omega))).2

/-- A full group of four characters is read as the bytes of its values, and reading goes on
with an empty group. -/
theorem decodeFrom_four (pos : Nat) (w x y z : Nat) (rest : List UInt8) :
    decodeBase64UrlFrom pos []
        (UInt8.ofNat (sextetChar w).toNat :: UInt8.ofNat (sextetChar x).toNat ::
          UInt8.ofNat (sextetChar y).toNat :: UInt8.ofNat (sextetChar z).toNat :: rest) =
      (decodeBase64UrlFrom (pos + 4) [] rest).map
        (groupBytes [w % 64, x % 64, y % 64, z % 64] ++ ·) := by
  simp [decodeBase64UrlFrom, sextetValue_sextetChar]

theorem groupBytes_three {a b c : UInt8} {n : Nat}
    (hn : n = a.toNat * 65536 + b.toNat * 256 + c.toNat) :
    groupBytes [n / 262144 % 64, n / 4096 % 64, n / 64 % 64, n % 64] = [a, b, c] := by
  have ha := a.toNat_lt
  have hb := b.toNat_lt
  have hc := c.toNat_lt
  simp only [groupBytes, List.length_cons, List.length_nil, List.foldl, List.append_nil,
    List.replicate, List.map, List.take, Nat.sub_self]
  simp only [List.cons.injEq, and_true, ← UInt8.toNat_inj, Nat.toUInt8, UInt8.toNat_ofNat']
  omega

theorem groupBytes_two {a b : UInt8} {n : Nat} (hn : n = a.toNat * 65536 + b.toNat * 256) :
    groupBytes [n / 262144 % 64, n / 4096 % 64, n / 64 % 64] = [a, b] := by
  have ha := a.toNat_lt
  have hb := b.toNat_lt
  simp only [groupBytes, List.length_cons, List.length_nil, List.foldl, List.replicate, List.map,
    List.take, List.cons_append, List.nil_append]
  simp only [List.cons.injEq, and_true, ← UInt8.toNat_inj, Nat.toUInt8, UInt8.toNat_ofNat']
  omega

theorem groupBytes_one {a : UInt8} {n : Nat} (hn : n = a.toNat * 65536) :
    groupBytes [n / 262144 % 64, n / 4096 % 64] = [a] := by
  have ha := a.toNat_lt
  simp only [groupBytes, List.length_cons, List.length_nil, List.foldl, List.replicate, List.map,
    List.take, List.cons_append, List.nil_append]
  simp only [List.cons.injEq, and_true, ← UInt8.toNat_inj, Nat.toUInt8, UInt8.toNat_ofNat']
  omega

theorem decodeFrom_encode (bs : List UInt8) (pos : Nat) :
    decodeBase64UrlFrom pos [] ((encodeBase64Url bs).flatMap String.utf8EncodeChar) = .ok bs := by
  fun_induction encodeBase64Url bs generalizing pos with
  | case1 a b c rest n ih =>
    simp only [List.flatMap_cons, utf8EncodeChar_sextetChar, List.cons_append, List.nil_append]
    rw [decodeFrom_four, ih, groupBytes_three rfl]
    rfl
  | case2 a b n =>
    simp only [List.flatMap_cons, utf8EncodeChar_sextetChar, List.cons_append, List.nil_append,
      List.flatMap_nil]
    simp [decodeBase64UrlFrom, sextetValue_sextetChar]
    exact groupBytes_two rfl
  | case3 a n =>
    simp only [List.flatMap_cons, utf8EncodeChar_sextetChar, List.cons_append, List.nil_append,
      List.flatMap_nil]
    simp [decodeBase64UrlFrom, sextetValue_sextetChar]
    exact groupBytes_one rfl
  | case4 => simp [decodeBase64UrlFrom]

theorem decodeBase64Url_encodeBase64Url (bs : List UInt8) :
    decodeBase64Url (utf8Bytes (String.ofList (encodeBase64Url bs))) = .ok bs := by
  rw [decodeBase64Url, utf8Bytes_ofList, decodeFrom_encode]

end MediaTimeline.Text
