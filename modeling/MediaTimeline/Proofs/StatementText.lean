import Mathlib
import MediaTimeline.Proofs.PlaceholderRewrite
import MediaTimeline.Sql.Store

/-! The texts of the statements the SQL store sends. -/

namespace MediaTimeline.Sql

/-- A statement written for `n` arguments with its placeholders in order: they are `$1`, …, `$n`
in the order they stand, and it holds no `?` of its own. -/
def WrittenInOrder (sql : String) (n : Nat) : Prop :=
  placeholderNumbers (pieces sql.toList) = List.range' 1 n ∧ '?' ∉ sql.toList

def Unmarked (s : String) : Prop := ∀ x ∈ s.toList, x ≠ '$' ∧ x ≠ '?'

@[simp] theorem placeholderNumbers_append (ps qs : List Piece) :
    placeholderNumbers (ps ++ qs) = placeholderNumbers ps ++ placeholderNumbers qs :=
  List.filterMap_append

@[simp] theorem placeholderNumbers_map_char (cs : List Char) :
    placeholderNumbers (cs.map Piece.char) = [] := by
  simp [placeholderNumbers]

/-! ### Reading the placeholders in one pass, by structural recursion, so that `decide` can
evaluate it -/

def closeRun (ds : List Char) : List Nat := if ds = [] then [] else [digitsValue ds.reverse]

def placeholderRun : Option (List Char) → List Char → List Nat
  | none, [] => []
  | none, c :: rest => if c = '$' then placeholderRun (some []) rest else placeholderRun none rest
  | some ds, [] => closeRun ds
  | some ds, c :: rest =>
    if c.isDigit then placeholderRun (some (c :: ds)) rest
    else closeRun ds ++ placeholderRun (if c = '$' then some [] else none) rest

def runPrefix : Option (List Char) → List Char
  | none => []
  | some ds => '$' :: ds.reverse

theorem pieces_run {ds rest : List Char} (hds : ∀ d ∈ ds, d.isDigit = true)
    (hrest : (rest.head?.any Char.isDigit) = false) :
    pieces ('$' :: (ds.reverse ++ rest)) =
      (if ds = [] then [Piece.char '$'] else [Piece.param ds.reverse]) ++ pieces rest := by
  rcases hrev : ds.reverse with _ | ⟨d, more⟩
  · rw [if_pos (List.reverse_eq_nil_iff.1 hrev), List.nil_append, pieces_cons_char fun _ => hrest]
    rfl
  · have hne : ds ≠ [] := fun h => by simp [h] at hrev
    have hdigits : ∀ x ∈ d :: more, x.isDigit = true := fun x hx =>
      hds x (List.mem_reverse.1 (hrev ▸ hx))
    obtain ⟨htake, hdrop⟩ :=
      digit_run_append (fun x hx => hdigits x (List.mem_cons_of_mem _ hx)) hrest
    rw [if_neg hne, List.cons_append, pieces.eq_2, if_pos (hdigits d List.mem_cons_self), htake,
      hdrop]
    rfl

theorem placeholderNumbers_run (ds : List Char) :
    placeholderNumbers (if ds = [] then [Piece.char '$'] else [Piece.param ds.reverse]) =
      closeRun ds := by
  unfold closeRun
  split <;> rfl

theorem placeholderRun_eq (cs : List Char) : ∀ (st : Option (List Char)),
    (∀ ds, st = some ds → ∀ d ∈ ds, d.isDigit = true) →
      placeholderRun st cs = placeholderNumbers (pieces (runPrefix st ++ cs)) := by
  induction cs with
  | nil =>
    rintro (_ | ds) hst
    · rw [runPrefix, List.nil_append, pieces.eq_1]
      rfl
    · rw [runPrefix, List.cons_append, pieces_run (hst ds rfl) rfl, placeholderNumbers_append,
        placeholderNumbers_run, pieces.eq_1]
      exact (List.append_nil _).symm
  | cons c rest ih =>
    have hnone : placeholderRun none (c :: rest) = placeholderNumbers (pieces (c :: rest)) := by
      by_cases hc : c = '$'
      · rw [placeholderRun, if_pos hc, ih (some []) (by simp), hc]
        rfl
      · rw [placeholderRun, if_neg hc, ih none (by simp), pieces_cons_char fun h => absurd h hc]
        rfl
    rintro (_ | ds) hst
    · exact hnone
    · by_cases hd : c.isDigit
      · rw [placeholderRun, if_pos hd, ih (some (c :: ds)) ?_]
        · simp [runPrefix]
        · rintro _ ⟨⟩ x hx
          rcases List.mem_cons.1 hx with rfl | hx
          exacts [hd, hst ds rfl x hx]
      · rw [placeholderRun, if_neg hd, runPrefix, List.cons_append,
          pieces_run (hst ds rfl) (by simpa using hd), placeholderNumbers_append,
          placeholderNumbers_run, ← hnone, placeholderRun]
        by_cases hc : c = '$' <;> simp [hc]

theorem placeholderRun_none (cs : List Char) :
    placeholderRun none cs = placeholderNumbers (pieces cs) :=
  placeholderRun_eq cs none (by simp)

instance (sql : String) (n : Nat) : Decidable (WrittenInOrder sql n) :=
  decidable_of_iff (placeholderRun none sql.toList = List.range' 1 n ∧ '?' ∉ sql.toList) (by
    rw [placeholderRun_none]
    rfl)

example : WrittenInOrder "a = $1 AND b = $2" 2 ∧ ¬WrittenInOrder "a = $2 AND b = $1" 2 := by decide

theorem pieces_dollar_free_append {xs : List Char} (ys : List Char) (h : '$' ∉ xs) :
    pieces (xs ++ ys) = xs.map Piece.char ++ pieces ys := by
  induction xs with
  | nil => rfl
  | cons c rest ih =>
    have hc : c ≠ '$' := fun hc => h (hc ▸ List.mem_cons_self)
    rw [List.cons_append, pieces_cons_char (fun h' => absurd h' hc),
      ih (fun h' => h (List.mem_cons_of_mem _ h')), List.map_cons, List.cons_append]

theorem placeholderNumbers_unmarked {s : String} (h : Unmarked s) :
    placeholderNumbers (pieces s.toList) = [] := by
  rw [← List.append_nil s.toList, pieces_dollar_free_append [] fun hd => (h '$' hd).1 rfl,
    pieces.eq_1, List.append_nil, placeholderNumbers_map_char]

theorem Unmarked.writtenInOrder {sql : String} (h : Unmarked sql) : WrittenInOrder sql 0 :=
  ⟨placeholderNumbers_unmarked h, fun hq => (h '?' hq).2 rfl⟩

theorem Unmarked.append {a b : String} (ha : Unmarked a) (hb : Unmarked b) : Unmarked (a ++ b) := by
  intro x hx
  rw [String.toList_append] at hx
  rcases List.mem_append.1 hx with hx | hx
  exacts [ha x hx, hb x hx]

theorem WrittenInOrder.unmarked_append {a b : String} {n : Nat} (ha : Unmarked a)
    (hb : WrittenInOrder b n) : WrittenInOrder (a ++ b) n := by
  obtain ⟨hnum, hq⟩ := hb
  refine ⟨?_, ?_⟩
  · rw [String.toList_append, pieces_dollar_free_append _ fun hd => (ha '$' hd).1 rfl,
      placeholderNumbers_append, placeholderNumbers_map_char, hnum, List.nil_append]
  · rw [String.toList_append, List.mem_append, not_or]
    exact ⟨fun h => (ha '?' h).2 rfl, hq⟩

theorem WrittenInOrder.append_unmarked {a b : String} {n : Nat} (ha : WrittenInOrder a n)
    (hb : Unmarked b) (hd : (b.toList.head?.any Char.isDigit) = false) :
    WrittenInOrder (a ++ b) n := by
  obtain ⟨hnum, hq⟩ := ha
  refine ⟨?_, ?_⟩
  · rw [String.toList_append, pieces_append hd, placeholderNumbers_append,
      placeholderNumbers_unmarked hb, hnum, List.append_nil]
  · rw [String.toList_append, List.mem_append, not_or]
    exact ⟨hq, fun h => (hb '?' h).2 rfl⟩

/-! ### The characters of a script's statements -/

section Chars

variable {P : Char → Prop}

theorem forall_trimBlank {s : String} (h : ∀ x ∈ s.toList, P x) :
    ∀ x ∈ (Text.trimBlank s).toList, P x := by
  intro x hx
  simp only [Text.trimBlank, Text.trimBlankList, String.toList_ofList, List.mem_reverse] at hx
  exact h x (List.dropWhile_subset _ (List.mem_reverse.1 (List.dropWhile_subset _ hx)))

theorem forall_intercalate {sep : String} {ls : List String} (hsep : ∀ x ∈ sep.toList, P x)
    (hls : ∀ l ∈ ls, ∀ x ∈ l.toList, P x) : ∀ x ∈ (sep.intercalate ls).toList, P x := by
  induction ls with
  | nil => simp [String.intercalate_nil]
  | cons l rest ih =>
    cases rest with
    | nil => simpa [String.intercalate_singleton] using hls l (by simp)
    | cons l' rest' =>
      intro x hx
      rw [String.intercalate_cons_cons, String.toList_append, String.toList_append] at hx
      rcases List.mem_append.1 hx with hx | hx
      · rcases List.mem_append.1 hx with hx | hx
        exacts [hls l (by simp) x hx, hsep x hx]
      · exact ih (fun l hl => hls l (List.mem_cons_of_mem _ hl)) x hx

theorem subset_intercalate {α : Type} {sep part : List α} {parts : List (List α)}
    (h : part ∈ parts) : part ⊆ sep.intercalate parts := by
  induction parts with
  | nil => exact absurd h List.not_mem_nil
  | cons a rest ih =>
    cases rest with
    | nil =>
      rw [List.mem_singleton.1 h, List.intercalate_singleton]
      exact List.Subset.refl _
    | cons b more =>
      rw [List.intercalate_cons_cons]
      rcases List.mem_cons.1 h with rfl | h
      · exact List.Subset.trans (List.subset_append_left _ _) (List.subset_append_left _ _)
      · exact List.Subset.trans (ih h) (List.subset_append_right _ _)

theorem forall_lines {text : String} (h : ∀ x ∈ text.toList, P x) :
    ∀ l ∈ lines text, ∀ x ∈ l.toList, P x := by
  intro l hl x hx
  obtain ⟨part, hpart, rfl⟩ := List.mem_map.1 hl
  rw [String.toList_ofList] at hx
  have hsub : part ⊆ text.toList := by
    rw [← @List.intercalate_splitOn Char text.toList _ _ '\n']
    exact subset_intercalate hpart
  exact h x (hsub hx)

theorem forall_stripLeadingComments {stmt : String} (hnl : P '\n') (h : ∀ x ∈ stmt.toList, P x) :
    ∀ x ∈ (stripLeadingComments stmt).toList, P x :=
  forall_trimBlank (forall_intercalate (by simpa using hnl)
    fun l hl => forall_lines h l (List.dropWhile_subset _ hl))

theorem forall_flush {cur : List Char} (h : ∀ x ∈ cur, P x) {s : String}
    (hs : s ∈ (let t := Text.trimBlank (String.ofList cur.reverse); if t.isEmpty then [] else [t])) :
    ∀ x ∈ s.toList, P x := by
  dsimp only at hs
  split at hs
  · exact absurd hs List.not_mem_nil
  · rw [List.mem_singleton.1 hs]
    exact forall_trimBlank (by simpa using h)

theorem forall_shift {c : Char} {cur rest : List Char} {goal : Prop}
    (ih : (∀ x ∈ c :: cur, P x) → (∀ x ∈ rest, P x) → goal) :
    (∀ x ∈ cur, P x) → (∀ x ∈ c :: rest, P x) → goal := by
  intro hcur hcs
  rw [List.forall_mem_cons] at hcs
  exact ih (List.forall_mem_cons.2 ⟨hcs.1, hcur⟩) hcs.2

/-- A step of the scan that moves a character and its look-ahead onto the statement; past the
end of the script the look-ahead is the zero character. -/
theorem forall_shift_two (h0 : P (Char.ofNat 0)) {c : Char} {cur rest : List Char} {goal : Prop}
    (ih : (∀ x ∈ rest.headD (Char.ofNat 0) :: c :: cur, P x) → (∀ x ∈ rest.tail, P x) → goal) :
    (∀ x ∈ cur, P x) → (∀ x ∈ c :: rest, P x) → goal := by
  intro hcur hcs
  rw [List.forall_mem_cons] at hcs
  have hnext : P (rest.headD (Char.ofNat 0)) := by
    cases rest with
    | nil => exact h0
    | cons d more => exact hcs.2 d List.mem_cons_self
  exact ih (List.forall_mem_cons.2 ⟨hnext, List.forall_mem_cons.2 ⟨hcs.1, hcur⟩⟩)
    fun x hx => hcs.2 x (List.mem_of_mem_tail hx)

/-- One step of the scan moves a character onto the statement, or a character and its look-ahead,
or, at a semicolon, ends the statement as the end of the script would and starts the next. -/
theorem splitFrom_cons (mode : ScanMode) (cur : List Char) (c : Char) (rest : List Char) :
    (∃ mode', splitFrom mode cur (c :: rest) = splitFrom mode' (c :: cur) rest) ∨
    (∃ mode', splitFrom mode cur (c :: rest) =
      splitFrom mode' (rest.headD (Char.ofNat 0) :: c :: cur) rest.tail) ∨
    splitFrom mode cur (c :: rest) = splitFrom mode cur [] ++ splitFrom .code [] rest := by
  cases mode with
  | lineComment => exact .inl ⟨_, splitFrom.eq_2 cur c rest⟩
  | blockComment =>
    rw [splitFrom.eq_3]
    split
    · exact .inr (.inl ⟨_, rfl⟩)
    · exact .inl ⟨_, rfl⟩
  | quoted q =>
    rw [splitFrom.eq_4]
    split
    · split
      · -- a doubled quote: the character read is the quote itself
        rename_i hc _
        exact .inr (.inl ⟨_, by rw [hc]⟩)
      · exact .inl ⟨_, rfl⟩
    · exact .inl ⟨_, rfl⟩
  | code =>
    rw [splitFrom.eq_5]
    split
    · exact .inl ⟨_, rfl⟩
    split
    · exact .inl ⟨_, rfl⟩
    split
    · exact .inl ⟨_, rfl⟩
    split
    · exact .inr (.inr (by rw [splitFrom.eq_1]))
    · exact .inl ⟨_, rfl⟩

/-- Every character of a statement the scan makes comes from the script, or is the zero
character its look-ahead reads past the end. The recursion follows the scan, one step at a time. -/
theorem forall_splitFrom (h0 : P (Char.ofNat 0)) : ∀ (mode : ScanMode) (cur cs : List Char),
    (∀ x ∈ cur, P x) → (∀ x ∈ cs, P x) → ∀ s ∈ splitFrom mode cur cs, ∀ x ∈ s.toList, P x
  | _, cur, [] => fun hcur _ _ hs => forall_flush hcur (by rwa [splitFrom.eq_1] at hs)
  | mode, cur, c :: rest => by
    rcases splitFrom_cons mode cur c rest with ⟨mode', heq⟩ | ⟨mode', heq⟩ | heq <;> rw [heq]
    · exact forall_shift (forall_splitFrom h0 mode' (c :: cur) rest)
    · exact forall_shift_two h0 (forall_splitFrom h0 mode' _ rest.tail)
    · -- a semicolon: the statement read so far, then the rest of the script afresh
      intro hcur hcs s hs
      rcases List.mem_append.1 hs with hs | hs
      · exact forall_splitFrom h0 mode cur [] hcur (fun _ hx => absurd hx List.not_mem_nil) s hs
      · exact forall_splitFrom h0 .code [] rest (fun _ hx => absurd hx List.not_mem_nil)
          (List.forall_mem_cons.1 hcs).2 s hs
termination_by _ _ cs => cs.length
decreasing_by all_goals simp only [List.length_cons, List.length_tail, List.length_nil]; omega

end Chars

theorem Unmarked.intercalate {sep : String} {ls : List String} (hsep : Unmarked sep)
    (h : ∀ l ∈ ls, Unmarked l) : Unmarked (sep.intercalate ls) :=
  forall_intercalate hsep h

/-! ### Literal texts, checked on their characters -/

theorem writtenInOrder_ofList {cs : List Char} {n : Nat}
    (h : placeholderRun none cs = List.range' 1 n ∧ '?' ∉ cs) :
    WrittenInOrder (String.ofList cs) n := by
  rw [WrittenInOrder, String.toList_ofList, ← placeholderRun_none]
  exact h

theorem unmarked_ofList {cs : List Char} (h : (cs.all fun x => x != '$' && x != '?') = true) :
    Unmarked (String.ofList cs) := by
  rw [Unmarked, String.toList_ofList]
  simpa only [List.all_eq_true, Bool.and_eq_true, bne_iff_ne, ne_eq] using h

theorem head_toList_ofList {cs : List Char} {c : Char} (h : cs.head? = some c) :
    (String.ofList cs).toList.head? = some c := by
  rw [String.toList_ofList, h]

theorem head_append {a b : String} {c : Char} (h : a.toList.head? = some c) :
    (a ++ b).toList.head? = some c := by
  rw [String.toList_append, List.head?_append, h]
  rfl

theorem upsertSuffix_unmarked (d : Dialect) {conflict col : String} {cols : List String}
    (hc : Unmarked conflict) (hcols : ∀ c ∈ col :: cols, Unmarked c) :
    Unmarked (d.upsertSuffix conflict (col :: cols)) ∧
      (d.upsertSuffix conflict (col :: cols)).toList.head? = some ' ' := by
  have hsep : Unmarked ", " := unmarked_ofList (by decide)
  unfold Dialect.upsertSuffix
  cases d with
  | postgres =>
    refine ⟨(((unmarked_ofList (by decide)).append hc).append (unmarked_ofList (by decide))).append
      (Unmarked.intercalate hsep fun l hl => ?_),
      head_append (head_append (head_append (head_toList_ofList rfl)))⟩
    obtain ⟨c, hc', rfl⟩ := List.mem_map.1 hl
    exact ((hcols c hc').append (unmarked_ofList (by decide))).append (hcols c hc')
  | mysql =>
    refine ⟨(unmarked_ofList (by decide)).append (Unmarked.intercalate hsep fun l hl => ?_),
      head_append (head_toList_ofList rfl)⟩
    obtain ⟨c, hc', rfl⟩ := List.mem_map.1 hl
    exact (((hcols c hc').append (unmarked_ofList (by decide))).append (hcols c hc')).append
      (unmarked_ofList (by decide))

/-! ### The migrations -/

theorem unmarked_script {text : String} {ls : List String}
    (hs : text = String.intercalate "\n" ls ++ "\n") (h : ∀ l ∈ ls, Unmarked l) : Unmarked text := by
  have hnl : Unmarked "\n" := unmarked_ofList (by decide)
  rw [hs]
  exact (Unmarked.intercalate hnl h).append hnl

theorem migrationFiles_unmarked : ∀ f ∈ migrationFiles, Unmarked f.2 := by
  simp only [migrationFiles, List.forall_mem_cons, List.not_mem_nil, false_implies, implies_true,
    and_true]
  and_intros
  all_goals
    refine unmarked_script rfl ?_
    simp only [List.forall_mem_cons, List.not_mem_nil, false_implies, implies_true, and_true]
    and_intros
    all_goals exact unmarked_ofList (by decide)

theorem text_found (p : String × String → Bool) :
    ((migrationFiles.find? p).map (·.2)).getD "" = "" ∨
      ∃ f ∈ migrationFiles, ((migrationFiles.find? p).map (·.2)).getD "" = f.2 := by
  cases hfind : migrationFiles.find? p with
  | none => exact .inl rfl
  | some f => exact .inr ⟨f, List.mem_of_find?_eq_some hfind, rfl⟩

theorem text_of_loadMigrations {dialect : String} {ms : List Migration}
    (h : loadMigrations dialect = .ok ms) {m : Migration} (hm : m ∈ ms) :
    m.text = "" ∨ ∃ f ∈ migrationFiles, m.text = f.2 := by
  unfold loadMigrations at h
  dsimp only at h
  cases hdir : listDir (Text.joinPath ["migrations", dialect]) with
  | error e =>
    rw [hdir] at h
    cases h
  | ok entries =>
    rw [hdir] at h
    simp only [bind, Except.bind, pure, Except.pure, Except.ok.injEq] at h
    subst h
    obtain ⟨e, -, he⟩ := List.mem_filterMap.1 ((List.mem_mergeSort).1 hm)
    split at he
    · cases he
    · obtain rfl := Option.some.inj he
      exact text_found _

theorem unmarked_of_loadMigrations {dialect : String} {ms : List Migration}
    (h : loadMigrations dialect = .ok ms) : ∀ m ∈ ms, Unmarked m.text := by
  intro m hm
  rcases text_of_loadMigrations h hm with htext | ⟨f, hf, htext⟩
  · rw [htext]
    exact unmarked_ofList rfl
  · exact htext ▸ migrationFiles_unmarked f hf

end MediaTimeline.Sql
