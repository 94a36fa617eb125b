import Mathlib
import MediaTimeline.Proofs.PageToken

/-! JSON values read back from their compact text. -/

namespace MediaTimeline

namespace JsonValue

/-- A value whose numbers are integer literals, with arrays and objects nested at most `n` deep. -/
inductive Plain : Nat → JsonValue → Prop
  | null {n : Nat} : Plain n .null
  | bool {n : Nat} (b : Bool) : Plain n (.bool b)
  | int {n : Nat} (k : Int) : Plain n (.num (toString k))
  | str {n : Nat} (s : String) : Plain n (.str s)
  | arr {n : Nat} {items : List JsonValue} (h : ∀ v ∈ items, Plain n v) : Plain (n + 1) (.arr items)
  | obj {n : Nat} {fields : List (String × JsonValue)} (h : ∀ p ∈ fields, Plain n p.2) :
      Plain (n + 1) (.obj fields)

open Json Text

/-! The bytes of a compact text, piece by piece. -/

theorem utf8Bytes_render_null : utf8Bytes (render .null) = [0x6E, 0x75, 0x6C, 0x6C] := by
  rw [render, show ("null" : String) = String.ofList ['n', 'u', 'l', 'l'] from rfl, utf8Bytes_ofList]
  rfl

theorem utf8Bytes_render_true : utf8Bytes (render (.bool true)) = [0x74, 0x72, 0x75, 0x65] := by
  rw [render, show ("true" : String) = String.ofList ['t', 'r', 'u', 'e'] from rfl, utf8Bytes_ofList]
  rfl

theorem utf8Bytes_render_false :
    utf8Bytes (render (.bool false)) = [0x66, 0x61, 0x6C, 0x73, 0x65] := by
  rw [render, show ("false" : String) = String.ofList ['f', 'a', 'l', 's', 'e'] from rfl,
    utf8Bytes_ofList]
  rfl

theorem utf8Bytes_render_arr (items : List JsonValue) :
    utf8Bytes (render (.arr items)) = 0x5B :: (utf8Bytes (renderItems items) ++ [0x5D]) := by
  rw [render, utf8Bytes_append, utf8Bytes_append, show ("[" : String) = String.ofList ['['] from rfl,
    show ("]" : String) = String.ofList [']'] from rfl, utf8Bytes_ofList, utf8Bytes_ofList]
  rfl

theorem utf8Bytes_render_obj (fields : List (String × JsonValue)) :
    utf8Bytes (render (.obj fields)) = 0x7B :: (utf8Bytes (renderFields fields) ++ [0x7D]) := by
  rw [render, utf8Bytes_append, utf8Bytes_append,
    show ("\x7b" : String) = String.ofList ['{'] from rfl,
    show ("\x7d" : String) = String.ofList ['}'] from rfl, utf8Bytes_ofList, utf8Bytes_ofList]
  rfl

theorem utf8Bytes_comma : utf8Bytes "," = [0x2C] := by
  rw [show ("," : String) = String.ofList [','] from rfl, utf8Bytes_ofList]
  rfl

theorem utf8Bytes_colon : utf8Bytes ":" = [0x3A] := by
  rw [show (":" : String) = String.ofList [':'] from rfl, utf8Bytes_ofList]
  rfl

theorem utf8Bytes_renderItems_cons (v w : JsonValue) (ws : List JsonValue) :
    utf8Bytes (renderItems (v :: w :: ws)) =
      utf8Bytes v.render ++ 0x2C :: utf8Bytes (renderItems (w :: ws)) := by
  simp [renderItems, utf8Bytes_append, utf8Bytes_comma]

theorem utf8Bytes_renderFields_single (k : String) (v : JsonValue) :
    utf8Bytes (renderFields [(k, v)]) = utf8Bytes (quote k) ++ 0x3A :: utf8Bytes v.render := by
  simp [renderFields, utf8Bytes_append, utf8Bytes_colon]

theorem utf8Bytes_renderFields_cons (k : String) (v : JsonValue) (f : String × JsonValue)
    (fs : List (String × JsonValue)) :
    utf8Bytes (renderFields ((k, v) :: f :: fs)) = utf8Bytes (quote k) ++
      0x3A :: (utf8Bytes v.render ++ 0x2C :: utf8Bytes (renderFields (f :: fs))) := by
  simp [renderFields, utf8Bytes_append, utf8Bytes_colon, utf8Bytes_comma]

theorem utf8Bytes_renderItems_prefix (u : JsonValue) (us : List JsonValue) :
    ∃ t, utf8Bytes (renderItems (u :: us)) = utf8Bytes u.render ++ t := by
  cases us with
  | nil => exact ⟨[], by simp [renderItems]⟩
  | cons w ws => exact ⟨_, utf8Bytes_renderItems_cons u w ws⟩

theorem utf8Bytes_renderFields_prefix (k : String) (v : JsonValue) (ps : List (String × JsonValue)) :
    ∃ t, utf8Bytes (renderFields ((k, v) :: ps)) = utf8Bytes (quote k) ++ t := by
  cases ps with
  | nil => exact ⟨_, utf8Bytes_renderFields_single k v⟩
  | cons q qs => exact ⟨_, utf8Bytes_renderFields_cons k v q qs⟩

theorem utf8Bytes_toString_int (k : Int) :
    ∃ b r, utf8Bytes (toString k) = b :: r ∧ (b = 0x2D ∨ 48 ≤ b.toNat ∧ b.toNat ≤ 57) := by
  cases k with
  | ofNat m =>
    obtain ⟨d, ds, hds, -⟩ := head_toDigits m
    have hd := isDigit_toNat (Nat.isDigit_of_mem_toDigits (by omega) (by omega)
      (hds ▸ List.mem_cons_self : d ∈ Nat.toDigits 10 m))
    refine ⟨UInt8.ofNat d.toNat, ds.map fun c => UInt8.ofNat c.toNat, ?_, .inr ?_⟩
    · show utf8Bytes (String.ofList (Nat.toDigits 10 m)) = _
      rw [utf8Bytes_digits, hds, List.map_cons]
    · simp only [UInt8.toNat_ofNat', Nat.mod_eq_of_lt (by omega : d.toNat < 256)]
      exact hd
  | negSucc m =>
    refine ⟨0x2D, utf8Bytes (String.ofList (Nat.toDigits 10 (m + 1))), ?_, .inl rfl⟩
    show utf8Bytes ("-" ++ String.ofList (Nat.toDigits 10 (m + 1))) = _
    rw [utf8Bytes_append, show ("-" : String) = String.ofList ['-'] from rfl, utf8Bytes_ofList]
    rfl

theorem Plain.head {n : Nat} {v : JsonValue} (h : Plain n v) :
    ∃ b r, utf8Bytes v.render = b :: r ∧ isBlankByte b = false ∧ b ≠ 0x5D := by
  cases h with
  | null => exact ⟨_, _, utf8Bytes_render_null, by decide, by decide⟩
  | bool b =>
    cases b
    · exact ⟨_, _, utf8Bytes_render_false, by decide, by decide⟩
    · exact ⟨_, _, utf8Bytes_render_true, by decide, by decide⟩
  | int k =>
    obtain ⟨b, r, hbr, hb⟩ := utf8Bytes_toString_int k
    refine ⟨b, r, hbr, ?_, ?_⟩
    · rcases hb with rfl | hb
      · decide
      · have hne : ∀ c : UInt8, (c.toNat < 48 ∨ 57 < c.toNat) → b ≠ c := by
          rintro c hc rfl
          omega
        simp [isBlankByte, hne 0x20 (by decide), hne 0x09 (by decide), hne 0x0A (by decide),
          hne 0x0D (by decide)]
    · rintro rfl
      rcases hb with hb | hb
      · exact absurd hb (by decide)
      · exact absurd hb.2 (by decide)
  | str s => exact ⟨_, _, by rw [render, utf8Bytes_quote, List.cons_append], by decide, by decide⟩
  | arr _ => exact ⟨_, _, utf8Bytes_render_arr _, by decide, by decide⟩
  | obj _ => exact ⟨_, _, utf8Bytes_render_obj _, by decide, by decide⟩

/-! Reading: scalars at once, arrays and objects item by item. -/

theorem readValue_null (fuel depth : Nat) (rest : List UInt8) :
    readValue (fuel + 1) depth (utf8Bytes (render .null) ++ rest) = .ok (.null, rest) := by
  rw [utf8Bytes_render_null, readValue, List.cons_append, skipBlanks_of_not_blank (by decide)]
  simp [readWord, Except.map, isDigitByte]

theorem readValue_bool (fuel depth : Nat) (b : Bool) (rest : List UInt8) :
    readValue (fuel + 1) depth (utf8Bytes (render (.bool b)) ++ rest) = .ok (.bool b, rest) := by
  cases b
  · rw [utf8Bytes_render_false, readValue, List.cons_append, skipBlanks_of_not_blank (by decide)]
    simp [readWord, Except.map, isDigitByte]
  · rw [utf8Bytes_render_true, readValue, List.cons_append, skipBlanks_of_not_blank (by decide)]
    simp [readWord, Except.map, isDigitByte]

theorem readValue_bracket {fuel depth : Nat} {r : List UInt8} (hd : depth < maxDepth) :
    readValue (fuel + 1) depth (0x5B :: r) = readArray fuel (depth + 1) r := by
  rw [readValue, skipBlanks_of_not_blank (by decide)]
  simp only [show ¬ (0x5B : UInt8) = 0x7B by decide, show ¬ depth ≥ maxDepth by omega, if_false,
    if_true]

theorem readValue_brace {fuel depth : Nat} {r : List UInt8} (hd : depth < maxDepth) :
    readValue (fuel + 1) depth (0x7B :: r) = readObject fuel (depth + 1) r := by
  rw [readValue, skipBlanks_of_not_blank (by decide)]
  simp only [show ¬ depth ≥ maxDepth by omega, if_false, if_true]

section Items

variable {depth : Nat}

/-- The items of an array, up to its closing bracket, read back as themselves when each item
does; an item takes fewer than two steps of fuel per byte, and each separator two more. -/
theorem readItems_renderItems {items : List JsonValue} (hne : items ≠ [])
    (hitems : ∀ v ∈ items, ∀ fuel rest, 2 * (utf8Bytes v.render).length < fuel → Closes rest →
      readValue fuel depth (utf8Bytes v.render ++ rest) = .ok (v, rest))
    (acc : List JsonValue) {fuel : Nat} (rest : List UInt8)
    (hfuel : 2 * (utf8Bytes (renderItems items)).length + 2 ≤ fuel) :
    readItems fuel depth acc (utf8Bytes (renderItems items) ++ 0x5D :: rest) =
      .ok (.arr (acc.reverse ++ items), rest) := by
  induction items generalizing acc fuel with
  | nil => exact absurd rfl hne
  | cons v ws ih =>
    obtain ⟨f, rfl⟩ := Nat.exists_eq_add_one_of_ne_zero (by omega : fuel ≠ 0)
    cases ws with
    | nil =>
      have hv := hitems v List.mem_cons_self f (0x5D :: rest)
        (by simp [renderItems] at hfuel; omega) (.inr ⟨rest, .inr (.inl rfl)⟩)
      rw [readItems]
      simp only [renderItems, hv, bind, Except.bind, skipBlanks_of_not_blank (b := 0x5D) (by decide)]
      simp
    | cons w ws =>
      rw [utf8Bytes_renderItems_cons] at hfuel ⊢
      simp only [List.length_append, List.length_cons] at hfuel
      have hv := hitems v List.mem_cons_self f
        (0x2C :: (utf8Bytes (renderItems (w :: ws)) ++ 0x5D :: rest)) (by omega) (.inr ⟨_, .inl rfl⟩)
      rw [readItems, List.append_assoc, List.cons_append]
      simp only [hv, bind, Except.bind, skipBlanks_of_not_blank (b := 0x2C) (by decide), if_true]
      rw [ih (List.cons_ne_nil w ws) (fun u hu => hitems u (List.mem_cons_of_mem v hu)) (v :: acc)
        (by omega)]
      simp

theorem readFields_renderFields {fields : List (String × JsonValue)} (hne : fields ≠ [])
    (hfields : ∀ p ∈ fields, ∀ fuel rest, 2 * (utf8Bytes p.2.render).length < fuel → Closes rest →
      readValue fuel depth (utf8Bytes p.2.render ++ rest) = .ok (p.2, rest))
    (acc : List (String × JsonValue)) {fuel : Nat} (rest : List UInt8)
    (hfuel : 2 * (utf8Bytes (renderFields fields)).length + 2 ≤ fuel) :
    readFields fuel depth acc (utf8Bytes (renderFields fields) ++ 0x7D :: rest) =
      .ok (.obj (acc.reverse ++ fields), rest) := by
  induction fields generalizing acc fuel with
  | nil => exact absurd rfl hne
  | cons p fs ih =>
    obtain ⟨k, v⟩ := p
    obtain ⟨f, rfl⟩ := Nat.exists_eq_add_one_of_ne_zero (by omega : fuel ≠ 0)
    cases fs with
    | nil =>
      rw [utf8Bytes_renderFields_single] at hfuel ⊢
      simp only [List.length_append, List.length_cons] at hfuel
      have hv := hfields (k, v) List.mem_cons_self f (0x7D :: rest) (by dsimp only; omega)
        (.inr ⟨rest, .inr (.inr rfl)⟩)
      rw [List.append_assoc, List.cons_append, readFields_member f depth acc k hv (by decide)]
      simp
    | cons g fs =>
      rw [utf8Bytes_renderFields_cons] at hfuel ⊢
      simp only [List.length_append, List.length_cons] at hfuel
      have hv := hfields (k, v) List.mem_cons_self f
        (0x2C :: (utf8Bytes (renderFields (g :: fs)) ++ 0x7D :: rest)) (by dsimp only; omega)
        (.inr ⟨_, .inl rfl⟩)
      rw [List.append_assoc, List.cons_append, List.append_assoc, List.cons_append,
        readFields_member f depth acc k hv (by decide), if_pos rfl,
        ih (List.cons_ne_nil g fs) (fun u hu => hfields u (List.mem_cons_of_mem _ hu)) ((k, v) :: acc)
          (by omega)]
      simp

end Items

/-- Every plain value within the reader's depth reads back from its text, up to what may follow
it; the induction follows the nesting of the value. -/
theorem Plain.readValue_render {n : Nat} {v : JsonValue} (h : Plain n v) :
    ∀ fuel depth rest, 2 * (utf8Bytes v.render).length < fuel →
      depth + n ≤ maxDepth → Closes rest →
        readValue fuel depth (utf8Bytes v.render ++ rest) = .ok (v, rest) := by
  induction h with
  | null =>
    intro fuel depth rest hfuel _ _
    obtain ⟨f, rfl⟩ := Nat.exists_eq_add_one_of_ne_zero (by omega : fuel ≠ 0)
    exact readValue_null f depth rest
  | bool b =>
    intro fuel depth rest hfuel _ _
    obtain ⟨f, rfl⟩ := Nat.exists_eq_add_one_of_ne_zero (by omega : fuel ≠ 0)
    exact readValue_bool f depth b rest
  | int k =>
    intro fuel depth rest hfuel _ hrest
    obtain ⟨f, rfl⟩ := Nat.exists_eq_add_one_of_ne_zero (by omega : fuel ≠ 0)
    exact readValue_int f depth k hrest
  | str s =>
    intro fuel depth rest hfuel _ _
    obtain ⟨f, rfl⟩ := Nat.exists_eq_add_one_of_ne_zero (by omega : fuel ≠ 0)
    exact readValue_quote f depth s rest
  | @arr n items hplain ih =>
    intro fuel depth rest hfuel hdepth _
    rw [utf8Bytes_render_arr] at hfuel ⊢
    simp only [List.length_cons, List.length_append] at hfuel
    obtain ⟨f, rfl⟩ := Nat.exists_eq_add_one_of_ne_zero (by omega : fuel ≠ 0)
    obtain ⟨g, rfl⟩ := Nat.exists_eq_add_one_of_ne_zero (by omega : f ≠ 0)
    simp only [List.cons_append, List.append_assoc, List.nil_append]
    rw [readValue_bracket (by omega)]
    cases items with
    | nil =>
      rw [readArray]
      simp [renderItems, show utf8Bytes "" = [] by simp [utf8Bytes_eq],
        skipBlanks_of_not_blank (b := 0x5D) (by decide)]
    | cons u us =>
      obtain ⟨b, r, hbr, hblank, hclose⟩ := (hplain u List.mem_cons_self).head
      obtain ⟨t, ht⟩ := utf8Bytes_renderItems_prefix u us
      have hstart : utf8Bytes (renderItems (u :: us)) ++ 0x5D :: rest =
          b :: (r ++ t ++ 0x5D :: rest) := by
        rw [ht, hbr]
        simp
      rw [readArray, hstart, skipBlanks_of_not_blank hblank]
      split
      · next heq => exact absurd (List.cons.inj heq).1 hclose
      · rw [← hstart, readItems_renderItems (List.cons_ne_nil u us)
          (fun w hw fuel rest h1 h2 => ih w hw fuel (depth + 1) rest h1 (by omega) h2) [] rest
          (by omega)]
        simp
  | @obj n fields hplain ih =>
    intro fuel depth rest hfuel hdepth _
    rw [utf8Bytes_render_obj] at hfuel ⊢
    simp only [List.length_cons, List.length_append] at hfuel
    obtain ⟨f, rfl⟩ := Nat.exists_eq_add_one_of_ne_zero (by omega : fuel ≠ 0)
    obtain ⟨g, rfl⟩ := Nat.exists_eq_add_one_of_ne_zero (by omega : f ≠ 0)
    simp only [List.cons_append, List.append_assoc, List.nil_append]
    rw [readValue_brace (by omega)]
    cases fields with
    | nil =>
      rw [readObject]
      simp [renderFields, show utf8Bytes "" = [] by simp [utf8Bytes_eq],
        skipBlanks_of_not_blank (b := 0x7D) (by decide)]
    | cons p ps =>
      obtain ⟨k, v⟩ := p
      obtain ⟨t, ht⟩ := utf8Bytes_renderFields_prefix k v ps
      rw [ht, List.append_assoc, readObject_quote, ← List.append_assoc, ← ht,
        readFields_renderFields (List.cons_ne_nil _ ps)
          (fun q hq fuel rest h1 h2 => ih q hq fuel (depth + 1) rest h1 (by omega) h2) [] rest
          (by omega)]
      simp

theorem readJson_render {n : Nat} {v : JsonValue} (h : Plain n v) (hn : n ≤ maxDepth) :
    readJson (utf8Bytes v.render) = .ok v := by
  have hread : readValue (4 * (utf8Bytes v.render).length + 4) 0 (utf8Bytes v.render) =
      .ok (v, []) := by
    simpa using h.readValue_render _ 0 [] (by omega) (by omega) (.inl rfl)
  rw [readJson, hread]
  rfl

end JsonValue

end MediaTimeline
