import Mathlib
import MediaTimeline.Sql.Dialect

/-! Rewriting numbered placeholders as positional ones. -/

namespace MediaTimeline.Sql

/-- A piece of a statement's text: a character, or a numbered placeholder with its digits. -/
inductive Piece where
  | char (c : Char)
  | param (digits : List Char)
deriving DecidableEq

namespace Piece

def text : Piece → List Char
  | char c => [c]
  | param ds => '$' :: ds

def positional : Piece → List Char
  | char c => [c]
  | param _ => ['?']

end Piece

def StartsWithDigit (ps : List Piece) : Prop := ((ps.flatMap Piece.text).head?.any Char.isDigit) = true

instance (ps : List Piece) : Decidable (StartsWithDigit ps) := inferInstanceAs (Decidable (_ = true))

/-- A cut into pieces is maximal when every placeholder has digits and takes all the digits after
it, and no `$` left as a character is followed by a digit. -/
def Maximal : List Piece → Prop
  | [] => True
  | .param ds :: rest => ds ≠ [] ∧ (∀ d ∈ ds, d.isDigit = true) ∧ ¬StartsWithDigit rest ∧ Maximal rest
  | .char c :: rest => (c = '$' → ¬StartsWithDigit rest) ∧ Maximal rest

instance decidableMaximal : (ps : List Piece) → Decidable (Maximal ps)
  | [] => inferInstanceAs (Decidable True)
  | .param _ :: rest =>
    have := decidableMaximal rest
    inferInstanceAs (Decidable (_ ∧ _ ∧ _ ∧ _))
  | .char _ :: rest =>
    have := decidableMaximal rest
    inferInstanceAs (Decidable (_ ∧ _))

def pieces : List Char → List Piece
  | [] => []
  | '$' :: d :: rest =>
    if d.isDigit then .param (d :: rest.takeWhile Char.isDigit) :: pieces (rest.dropWhile Char.isDigit)
    else .char '$' :: pieces (d :: rest)
  | c :: rest => .char c :: pieces rest
termination_by cs => cs.length
decreasing_by
  all_goals
    try have := List.length_dropWhile_le Char.isDigit rest
    simp only [List.length_cons]
    omega

theorem digit_run_append {ds rest : List Char} (hds : ∀ d ∈ ds, d.isDigit = true)
    (hrest : (rest.head?.any Char.isDigit) = false) :
    (ds ++ rest).takeWhile Char.isDigit = ds ∧ (ds ++ rest).dropWhile Char.isDigit = rest := by
  rw [List.takeWhile_append_of_pos hds, List.dropWhile_append_of_pos hds]
  cases rest with
  | nil => simp
  | cons c more => simp_all

theorem head_dropWhile_not_digit (cs : List Char) :
    ((cs.dropWhile Char.isDigit).head?.any Char.isDigit) = false := by
  have h := List.head?_dropWhile_not Char.isDigit cs
  cases hd : (cs.dropWhile Char.isDigit).head? with
  | none => rfl
  | some c => rw [hd] at h; simpa using h

theorem flatMap_text_pieces (cs : List Char) : (pieces cs).flatMap Piece.text = cs := by
  fun_induction pieces cs with
  | case1 => rfl
  | case2 d rest hd ih =>
    simp only [List.flatMap_cons, Piece.text, ih, List.cons_append, List.takeWhile_append_dropWhile]
  | case3 d rest hd ih => simp only [List.flatMap_cons, Piece.text, ih, List.singleton_append]
  | case4 c rest _ ih => simp only [List.flatMap_cons, Piece.text, ih, List.singleton_append]

theorem startsWithDigit_pieces (cs : List Char) :
    StartsWithDigit (pieces cs) ↔ (cs.head?.any Char.isDigit) = true := by
  rw [StartsWithDigit, flatMap_text_pieces]

theorem maximal_pieces (cs : List Char) : Maximal (pieces cs) := by
  fun_induction pieces cs with
  | case1 => trivial
  | case2 d rest hd ih =>
    refine ⟨List.cons_ne_nil _ _, ?_, ?_, ih⟩
    · intro x hx
      rcases List.mem_cons.1 hx with rfl | hx
      · exact hd
      · exact List.mem_takeWhile_imp hx
    · rw [startsWithDigit_pieces, head_dropWhile_not_digit]
      exact Bool.false_ne_true
  | case3 d rest hd ih => exact ⟨fun _ => by simp [startsWithDigit_pieces, hd], ih⟩
  | case4 c rest hopen ih =>
    refine ⟨fun hc => ?_, ih⟩
    cases rest with
    | nil => simp [startsWithDigit_pieces]
    | cons d more => exact absurd rfl (hopen d more hc)

theorem pieces_cons_char {c : Char} {rest : List Char}
    (h : c = '$' → (rest.head?.any Char.isDigit) = false) :
    pieces (c :: rest) = .char c :: pieces rest := by
  by_cases hc : c = '$'
  · subst hc
    cases rest with
    | nil => exact pieces.eq_3 _ _ fun _ _ _ h => nomatch h
    | cons d more =>
      have hd : d.isDigit = false := by simpa using h rfl
      rw [pieces.eq_2, if_neg (by simp [hd])]
  · exact pieces.eq_3 _ _ fun _ _ h _ => hc h

theorem eq_pieces_of_maximal {ps : List Piece} {cs : List Char}
    (htext : ps.flatMap Piece.text = cs) (hmax : Maximal ps) : ps = pieces cs := by
  induction ps generalizing cs with
  | nil => subst htext; rw [List.flatMap_nil, pieces.eq_1]
  | cons p rest ih =>
    subst htext
    cases p with
    | char c =>
      obtain ⟨hc, hrest⟩ := hmax
      have hopen : c = '$' → ((rest.flatMap Piece.text).head?.any Char.isDigit) = false := by
        intro h
        simpa [StartsWithDigit] using hc h
      simp only [List.flatMap_cons, Piece.text, List.singleton_append]
      rw [pieces_cons_char hopen, ← ih rfl hrest]
    | param ds =>
      obtain ⟨hne, hds, hstop, hrest⟩ := hmax
      obtain ⟨d, more, rfl⟩ := List.exists_cons_of_ne_nil hne
      have hd : d.isDigit = true := hds d List.mem_cons_self
      obtain ⟨htake, hdrop⟩ := digit_run_append (fun x hx => hds x (List.mem_cons_of_mem _ hx))
        (Bool.not_eq_true _ ▸ hstop)
      simp only [List.flatMap_cons, Piece.text, List.cons_append]
      rw [pieces.eq_2, if_pos hd, htake, hdrop, ← ih rfl hrest]

theorem not_startsWithDigit_append {ps qs : List Piece} (hp : ¬StartsWithDigit ps)
    (hq : ¬StartsWithDigit qs) : ¬StartsWithDigit (ps ++ qs) := by
  simp only [StartsWithDigit, List.flatMap_append, List.head?_append, Bool.not_eq_true] at *
  cases h : (ps.flatMap Piece.text).head? with
  | none => simpa using hq
  | some c => rw [h] at hp; simpa using hp

theorem Maximal.append {ps qs : List Piece} (hp : Maximal ps) (hq : Maximal qs)
    (h : ¬StartsWithDigit qs) : Maximal (ps ++ qs) := by
  induction ps with
  | nil => exact hq
  | cons p rest ih =>
    cases p with
    | char c =>
      obtain ⟨hc, hrest⟩ := hp
      exact ⟨fun hd => not_startsWithDigit_append (hc hd) h, ih hrest⟩
    | param ds =>
      obtain ⟨hne, hds, hstop, hrest⟩ := hp
      exact ⟨hne, hds, not_startsWithDigit_append hstop h, ih hrest⟩

theorem pieces_append {xs ys : List Char} (h : (ys.head?.any Char.isDigit) = false) :
    pieces (xs ++ ys) = pieces xs ++ pieces ys := by
  have hstart : ¬StartsWithDigit (pieces ys) := by
    rw [startsWithDigit_pieces, h]
    exact Bool.false_ne_true
  refine (eq_pieces_of_maximal ?_ ((maximal_pieces xs).append (maximal_pieces ys) hstart)).symm
  rw [List.flatMap_append, flatMap_text_pieces, flatMap_text_pieces]

/-! ### The rewriting -/

namespace Dialect

theorem questionMarks_skipping (cs : List Char) :
    questionMarks true cs = questionMarks false (cs.dropWhile Char.isDigit) := by
  induction cs with
  | nil => rfl
  | cons c rest ih =>
    by_cases hc : c.isDigit
    · rw [questionMarks, List.dropWhile_cons_of_pos hc, Bool.true_and, if_pos hc, ih]
    · rw [List.dropWhile_cons_of_neg hc, questionMarks, questionMarks, Bool.true_and, if_neg hc,
        Bool.false_and, if_neg Bool.false_ne_true]

theorem questionMarks_eq_positional (cs : List Char) :
    questionMarks false cs = (pieces cs).flatMap Piece.positional := by
  fun_induction pieces cs with
  | case1 => rfl
  | case2 d rest hd ih =>
    rw [questionMarks, if_neg (by simp), if_pos (by simp [hd]), questionMarks_skipping,
      List.dropWhile_cons_of_pos hd, ih]
    rfl
  | case3 d rest hd ih =>
    rw [questionMarks, if_neg (by simp), if_neg (by simp [hd]), ih]
    rfl
  | case4 c rest hopen ih =>
    have hnot : ¬(c = '$' ∧ (rest.head?.any Char.isDigit) = true) := by
      rintro ⟨hc, hd⟩
      cases rest with
      | nil => cases hd
      | cons d more => exact hopen d more hc rfl
    rw [questionMarks, if_neg (by simp), if_neg (by simpa using hnot), ih]
    rfl

end Dialect

/-! ### Binding arguments -/

/-- What a position of a bound statement holds: a character of its text, or an argument, counted
from one. -/
inductive Slot where
  | char (c : Char)
  | arg (n : Nat)
deriving DecidableEq

def digitsValue (ds : List Char) : Nat := ds.foldl (fun n d => 10 * n + (d.toNat - '0'.toNat)) 0

def Piece.slot : Piece → Slot
  | .char c => .char c
  | .param ds => .arg (digitsValue ds)

def placeholderNumbers (ps : List Piece) : List Nat :=
  ps.filterMap fun
    | .param ds => some (digitsValue ds)
    | .char _ => none

/-- A text bound with positional placeholders: each `?` takes the argument after the one the `?`
before it took, the first taking the `next`-th. -/
def positionalBinding (next : Nat) : List Char → List Slot
  | [] => []
  | c :: rest =>
    if c = '?' then .arg next :: positionalBinding (next + 1) rest
    else .char c :: positionalBinding next rest

/-- Placeholders numbered on from `n` in the order they stand, in a text with no `?` of its own,
bind as the `?`s written for them do. The induction is on the pieces; the count of the next `?`
follows the numbers. -/
theorem positionalBinding_positional {ps : List Piece} {n k : Nat}
    (hnum : placeholderNumbers ps = List.range' n k) (hq : '?' ∉ ps.flatMap Piece.text) :
    positionalBinding n (ps.flatMap Piece.positional) = ps.map Piece.slot := by
  induction ps generalizing n k with
  | nil => rfl
  | cons p rest ih =>
    simp only [List.flatMap_cons, List.mem_append, not_or] at hq
    cases p with
    | char c =>
      have hc : c ≠ '?' := fun h => hq.1 (by simp [Piece.text, h])
      simp only [placeholderNumbers, List.filterMap_cons] at hnum
      simp only [List.flatMap_cons, Piece.positional, List.singleton_append, positionalBinding,
        if_neg hc, List.map_cons, Piece.slot, ih hnum hq.2]
    | param ds =>
      simp only [placeholderNumbers, List.filterMap_cons] at hnum
      obtain ⟨k, rfl⟩ : ∃ k', k = k' + 1 := by
        cases k with
        | zero => simp at hnum
        | succ k' => exact ⟨k', rfl⟩
      rw [List.range'_succ] at hnum
      obtain ⟨hds, hrest⟩ := List.cons.inj hnum
      rw [List.flatMap_cons, List.map_cons, Piece.positional, Piece.slot, hds, List.singleton_append,
        positionalBinding, if_pos rfl, ih hrest hq.2]

/-- The MySQL rewriting of a statement. Every text has a maximal cut into characters and
placeholders. For every such cut the rewriting writes each placeholder as one `?` and keeps every
other character in place; and when the placeholders are `$1`, …, `$k` in the order they stand and
the text has no `?` of its own, the `i`-th `?` of the rewritten text stands where `$i` stood, so
that the rewritten text binds its arguments positionally exactly as the text binds them by
number. -/
theorem rewritePlaceholders_binds_in_order (q : String) :
    (∃ ps, ps.flatMap Piece.text = q.toList ∧ Maximal ps) ∧
      ∀ ps, ps.flatMap Piece.text = q.toList → Maximal ps →
        (Dialect.mysql.rewritePlaceholders q).toList = ps.flatMap Piece.positional ∧
        ∀ k, placeholderNumbers ps = List.range' 1 k → '?' ∉ q.toList →
          positionalBinding 1 (Dialect.mysql.rewritePlaceholders q).toList = ps.map Piece.slot := by
  refine ⟨⟨pieces q.toList, flatMap_text_pieces _, maximal_pieces _⟩, fun ps htext hmax => ?_⟩
  have hps : ps = pieces q.toList := eq_pieces_of_maximal htext hmax
  have hrewrite : (Dialect.mysql.rewritePlaceholders q).toList = ps.flatMap Piece.positional := by
    rw [Dialect.rewritePlaceholders, String.toList_ofList, Dialect.questionMarks_eq_positional, hps]
  refine ⟨hrewrite, fun k hnum hq => ?_⟩
  rw [hrewrite]
  exact positionalBinding_positional hnum (htext ▸ hq)

/-- A `?` of the statement's own shifts the arguments: PostgreSQL's test for a key, `doc ? $1`,
becomes `doc ? ?`, whose first `?` takes the argument that `$1` took. -/
theorem key_test_operator_shifts_arguments :
    Maximal (pieces "SELECT doc FROM flows WHERE doc ? $1".toList) ∧
      placeholderNumbers (pieces "SELECT doc FROM flows WHERE doc ? $1".toList) = List.range' 1 1 ∧
      Dialect.mysql.rewritePlaceholders "SELECT doc FROM flows WHERE doc ? $1" =
        "SELECT doc FROM flows WHERE doc ? ?" ∧
      positionalBinding 1 (Dialect.mysql.rewritePlaceholders "SELECT doc FROM flows WHERE doc ? $1").toList ≠
        (pieces "SELECT doc FROM flows WHERE doc ? $1".toList).map Piece.slot :=
  ⟨maximal_pieces _, by decide +kernel, by decide +kernel, by decide +kernel⟩

end MediaTimeline.Sql
