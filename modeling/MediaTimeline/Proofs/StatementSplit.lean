import Mathlib
import MediaTimeline.Sql.Statements

/-! The statements of a migration script, read off its lexemes. -/

namespace MediaTimeline.Sql

/-- The rest of a quoted text after its opening quote `q`, through its closing quote, and what
follows it; a doubled quote stands for one quote, and an unclosed text runs to the end. -/
def readQuoted (q : Char) : List Char → List Char × List Char
  | [] => ([], [])
  | c :: rest =>
    if c = q then
      match rest with
      | d :: more => if d = q then ((c :: d :: (readQuoted q more).1), (readQuoted q more).2) else ([c], rest)
      | [] => ([c], [])
    else (c :: (readQuoted q rest).1, (readQuoted q rest).2)

/-- The rest of a block comment after its opening `/*`, through the first `*/`, and what follows
it; an unclosed comment runs to the end. -/
def readBlock : List Char → List Char × List Char
  | '*' :: '/' :: rest => (['*', '/'], rest)
  | c :: rest => (c :: (readBlock rest).1, (readBlock rest).2)
  | [] => ([], [])

theorem readQuoted_append (q : Char) (cs : List Char) :
    (readQuoted q cs).1 ++ (readQuoted q cs).2 = cs := by
  fun_induction readQuoted q cs <;> simp_all

theorem readBlock_append (cs : List Char) : (readBlock cs).1 ++ (readBlock cs).2 = cs := by
  fun_induction readBlock cs <;> simp_all

theorem length_readQuoted_le (q : Char) (cs : List Char) :
    (readQuoted q cs).2.length ≤ cs.length := by
  have h := congrArg List.length (readQuoted_append q cs)
  rw [List.length_append] at h
  omega

theorem length_readBlock_le (cs : List Char) : (readBlock cs).2.length ≤ cs.length := by
  have h := congrArg List.length (readBlock_append cs)
  rw [List.length_append] at h
  omega

theorem head_readBlock (cs : List Char) : (readBlock cs).1.head? = cs.head? := by
  fun_induction readBlock cs <;> rfl

/-- A lexeme of a script. -/
inductive Lexeme where
  | quoted (text : List Char)
  | lineComment (text : List Char)
  | blockComment (inner : List Char)
  | semicolon
  | char (c : Char)
deriving DecidableEq

namespace Lexeme

def text : Lexeme → List Char
  | quoted t => t
  | lineComment t => t
  | blockComment inner => '/' :: '*' :: inner
  | semicolon => [';']
  | char c => [c]

def isSemicolon : Lexeme → Bool
  | semicolon => true
  | _ => false

def opensOntoSlash : Lexeme → Bool
  | blockComment ('/' :: _) => true
  | _ => false

end Lexeme

def lexemes : List Char → List Lexeme
  | [] => []
  | '-' :: '-' :: rest =>
    .lineComment ('-' :: '-' :: rest.takeWhile (· != '\n')) :: lexemes (rest.dropWhile (· != '\n'))
  | '/' :: '*' :: rest => .blockComment (readBlock rest).1 :: lexemes (readBlock rest).2
  | c :: rest =>
    if c = '\'' ∨ c = '"' then .quoted (c :: (readQuoted c rest).1) :: lexemes (readQuoted c rest).2
    else if c = ';' then .semicolon :: lexemes rest
    else .char c :: lexemes rest
termination_by cs => cs.length
decreasing_by
  all_goals
    try have := List.length_dropWhile_le (· != '\n') rest
    try have := length_readBlock_le rest
    try have := length_readQuoted_le c rest
    simp only [List.length_cons]
    omega

def statementText (piece : List Char) : String := Text.trimBlank (String.ofList piece)

def scriptStatements (script : String) : List String :=
  (((lexemes script.toList).splitOnP Lexeme.isSemicolon).map fun piece =>
    statementText (piece.flatMap Lexeme.text)).filter fun s => !s.isEmpty

theorem flatMap_text_lexemes (cs : List Char) : (lexemes cs).flatMap Lexeme.text = cs := by
  fun_induction lexemes cs with
  | case1 => rfl
  | case2 rest ih =>
    simp only [List.flatMap_cons, Lexeme.text, ih, List.cons_append, List.takeWhile_append_dropWhile]
  | case3 rest ih =>
    simp only [List.flatMap_cons, Lexeme.text, ih, List.cons_append, readBlock_append]
  | case4 c rest _ _ hq ih =>
    simp only [List.flatMap_cons, Lexeme.text, ih, List.cons_append, readQuoted_append]
  | case5 rest _ _ _ ih => simp only [List.flatMap_cons, Lexeme.text, ih, List.singleton_append]
  | case6 c rest _ _ _ _ ih => simp only [List.flatMap_cons, Lexeme.text, ih, List.singleton_append]

/-! ### The scan, mode by mode -/

def pieceStatement (piece : List Char) : List String :=
  [statementText piece].filter fun s => !s.isEmpty

theorem splitFrom_nil (mode : ScanMode) (cur : List Char) :
    splitFrom mode cur [] = pieceStatement cur.reverse := by
  rw [splitFrom]
  simp only [pieceStatement, statementText, List.filter_cons, List.filter_nil, Bool.not_eq_true']
  split <;> simp_all

theorem splitFrom_code_cons (cur : List Char) (c : Char) (rest : List Char) :
    splitFrom .code cur (c :: rest) =
      if c = '-' ∧ rest.headD (Char.ofNat 0) = '-' then splitFrom .lineComment (c :: cur) rest
      else if c = '/' ∧ rest.headD (Char.ofNat 0) = '*' then splitFrom .blockComment (c :: cur) rest
      else if c = '\'' ∨ c = '"' then splitFrom (.quoted c) (c :: cur) rest
      else if c = ';' then pieceStatement cur.reverse ++ splitFrom .code [] rest
      else splitFrom .code (c :: cur) rest := by
  rw [splitFrom, ← splitFrom_nil .code cur, splitFrom]

theorem splitFrom_code_plain {cur : List Char} {c : Char} {rest : List Char}
    (hdash : c = '-' → rest.head? ≠ some '-') (hslash : c = '/' → rest.head? ≠ some '*')
    (hq : ¬(c = '\'' ∨ c = '"')) (hsemi : c ≠ ';') :
    splitFrom .code cur (c :: rest) = splitFrom .code (c :: cur) rest := by
  rw [splitFrom_code_cons, if_neg, if_neg, if_neg hq, if_neg hsemi]
  · rintro ⟨rfl, h⟩
    cases rest with
    | nil => exact absurd h (by decide)
    | cons d more => exact hslash rfl (by simp_all)
  · rintro ⟨rfl, h⟩
    cases rest with
    | nil => exact absurd h (by decide)
    | cons d more => exact hdash rfl (by simp_all)

theorem splitFrom_lineComment (cur cs : List Char) :
    splitFrom .lineComment cur cs =
      splitFrom .code ((cs.takeWhile (· != '\n')).reverse ++ cur) (cs.dropWhile (· != '\n')) := by
  induction cs generalizing cur with
  | nil => simp only [List.takeWhile_nil, List.dropWhile_nil, List.reverse_nil, List.nil_append,
      splitFrom_nil]
  | cons c rest ih =>
    rw [splitFrom]
    by_cases hc : c = '\n'
    · subst hc
      simp only [if_true, List.takeWhile_cons, List.dropWhile_cons, bne_self_eq_false,
        Bool.false_eq_true, if_false, List.reverse_nil, List.nil_append]
      rw [splitFrom_code_plain] <;> simp
    · simp only [hc, if_false, ih, List.takeWhile_cons, List.dropWhile_cons, bne_iff_ne, ne_eq,
        not_false_eq_true, if_true, List.reverse_cons, List.append_assoc, List.singleton_append]

theorem splitFrom_blockComment (cur cs : List Char) :
    splitFrom .blockComment cur cs =
      splitFrom .code ((readBlock cs).1.reverse ++ cur) (readBlock cs).2 := by
  fun_induction readBlock cs generalizing cur with
  | case1 rest => rw [splitFrom]; rfl
  | case2 c rest hne ih =>
    rw [splitFrom]
    have hclose : ¬(c = '*' ∧ rest.headD (Char.ofNat 0) = '/') := by
      rintro ⟨rfl, hd⟩
      cases rest with
      | nil => simp at hd
      | cons d more =>
        simp only [List.headD_cons] at hd
        exact hne more rfl (by rw [hd])
    simp only [hclose, if_false, ih, List.reverse_cons, List.append_assoc, List.singleton_append]
  | case3 => simp only [splitFrom_nil, List.reverse_nil, List.nil_append]

theorem splitFrom_quoted {q : Char} (hq : q ≠ Char.ofNat 0) (cur cs : List Char) :
    splitFrom (.quoted q) cur cs =
      splitFrom .code ((readQuoted q cs).1.reverse ++ cur) (readQuoted q cs).2 := by
  fun_induction readQuoted q cs generalizing cur with
  | case1 => simp only [splitFrom_nil, List.reverse_nil, List.nil_append]
  | case2 more ih => rw [splitFrom]; simp [ih]
  | case3 d more hd => rw [splitFrom]; simp [hd]
  | case4 =>
    -- at the end of the script the look-ahead is the character 0, never a quote
    rw [splitFrom_nil]
    conv_lhs => rw [splitFrom]
    simp [Ne.symm hq, splitFrom_nil]
  | case5 c rest hc ih => rw [splitFrom]; simp [hc, ih]

theorem splitFrom_code_blockOpen (cur rest : List Char) :
    splitFrom .code cur ('/' :: '*' :: rest) =
      splitFrom .code ((readBlock ('*' :: rest)).1.reverse ++ '/' :: cur) (readBlock ('*' :: rest)).2 := by
  rw [splitFrom_code_cons, if_neg (by simp), if_pos (by simp), splitFrom_blockComment]

theorem readBlock_star {rest : List Char} (h : rest.head? ≠ some '/') :
    readBlock ('*' :: rest) = ('*' :: (readBlock rest).1, (readBlock rest).2) := by
  cases rest with
  | nil => rfl
  | cons d more =>
    rw [readBlock]
    rintro more' - ⟨rfl, -⟩
    exact h rfl

/-! ### Cutting lexemes into statements -/

def cutAt (cur : List Char) : List Lexeme → List String
  | [] => pieceStatement cur.reverse
  | l :: ls =>
    if l.isSemicolon then pieceStatement cur.reverse ++ cutAt [] ls
    else cutAt (l.text.reverse ++ cur) ls

theorem map_flatMap_modifyHead_cons (l : Lexeme) (pieces : List (List Lexeme)) :
    (pieces.modifyHead (l :: ·)).map (·.flatMap Lexeme.text) =
      (pieces.map (·.flatMap Lexeme.text)).modifyHead (l.text ++ ·) := by
  cases pieces <;> simp

/-- Cutting lexemes gives the statements of the texts between their semicolons, the first text
following the statement so far. -/
theorem cutAt_eq (cur : List Char) (ls : List Lexeme) :
    cutAt cur ls = (((ls.splitOnP Lexeme.isSemicolon).map (·.flatMap Lexeme.text)).modifyHead
      (cur.reverse ++ ·)).flatMap pieceStatement := by
  induction ls generalizing cur with
  | nil => simp [cutAt]
  | cons l ls ih =>
    rw [cutAt, List.splitOnP_cons_eq_if_modifyHead]
    by_cases hl : l.isSemicolon
    · simp only [hl, if_true, ih, List.reverse_nil, List.nil_append, List.map_cons, List.modifyHead_cons,
        List.flatMap_nil, List.append_nil, List.flatMap_cons]
      rw [show (fun x : List Char => x) = id from rfl, List.modifyHead_id, id]
    · simp only [hl, Bool.false_eq_true, if_false, ih, map_flatMap_modifyHead_cons,
        List.modifyHead_modifyHead, Function.comp_def, List.reverse_append, List.reverse_reverse,
        List.append_assoc]

theorem flatMap_pieceStatement (pieces : List (List Char)) :
    pieces.flatMap pieceStatement = (pieces.map statementText).filter fun s => !s.isEmpty := by
  induction pieces with
  | nil => rfl
  | cons p ps ih => simp only [List.flatMap_cons, ih, pieceStatement, List.map_cons, List.filter_cons,
      List.filter_nil]; split <;> rfl

theorem cutAt_nil_lexemes (script : String) :
    cutAt [] (lexemes script.toList) = scriptStatements script := by
  rw [cutAt_eq, List.reverse_nil]
  simp only [List.nil_append]
  rw [show (fun x : List Char => x) = id from rfl, List.modifyHead_id, id, flatMap_pieceStatement,
    List.map_map]
  rfl

/-! ### The scan against the lexemes -/

def NoSlashOpening (ls : List Lexeme) : Prop := ∀ l ∈ ls, l.opensOntoSlash = false

theorem NoSlashOpening.tail {l : Lexeme} {ls : List Lexeme} (h : NoSlashOpening (l :: ls)) :
    NoSlashOpening ls :=
  fun l' hl' => h l' (List.mem_cons_of_mem _ hl')

theorem NoSlashOpening.head_ne {inner : List Char} {ls : List Lexeme}
    (h : NoSlashOpening (.blockComment inner :: ls)) : inner.head? ≠ some '/' := by
  have hb := h _ List.mem_cons_self
  intro hhead
  cases inner with
  | nil => cases hhead
  | cons c more =>
    obtain rfl : c = '/' := by simpa using hhead
    cases hb

theorem head_ne_of_not_opens {c x y : Char} {rest : List Char}
    (h : ∀ more, c = x → rest = y :: more → False) : c = x → rest.head? ≠ some y := by
  intro hc hhead
  cases rest with
  | nil => cases hhead
  | cons d more => exact h more hc (by simp_all)

theorem cutAt_cons_of_not_semicolon {l : Lexeme} (hl : l.isSemicolon = false) (cur : List Char)
    (ls : List Lexeme) : cutAt cur (l :: ls) = cutAt (l.text.reverse ++ cur) ls := by
  simp only [cutAt, hl, Bool.false_eq_true, if_false]

/-- Where no block comment opens onto a `/`, the scan cuts the lexemes of the script at their
semicolons. The induction follows the lexemes; each lexeme is one mode of the scan. -/
theorem splitFrom_code_eq_cutAt (cur cs : List Char) (h : NoSlashOpening (lexemes cs)) :
    splitFrom .code cur cs = cutAt cur (lexemes cs) := by
  fun_induction lexemes cs generalizing cur with
  | case1 => rw [splitFrom_nil]; rfl
  | case2 rest ih =>
    have hdash : ('-' != '\n') = true := rfl
    rw [splitFrom_code_cons, if_pos (by simp), splitFrom_lineComment]
    simp only [List.takeWhile_cons, List.dropWhile_cons, hdash, if_true]
    rw [ih _ h.tail, cutAt_cons_of_not_semicolon rfl]
    simp [Lexeme.text]
  | case3 rest ih =>
    have hopen : rest.head? ≠ some '/' := by
      rw [← head_readBlock]
      exact h.head_ne
    rw [splitFrom_code_blockOpen, readBlock_star hopen, ih _ h.tail, cutAt_cons_of_not_semicolon rfl]
    simp [Lexeme.text]
  | case4 c rest _ _ hq ih =>
    have hzero : c ≠ Char.ofNat 0 := by rcases hq with rfl | rfl <;> decide
    have hcode : ¬(c = '-' ∧ rest.headD (Char.ofNat 0) = '-') ∧
        ¬(c = '/' ∧ rest.headD (Char.ofNat 0) = '*') := by
      rcases hq with rfl | rfl <;> simp
    rw [splitFrom_code_cons, if_neg hcode.1, if_neg hcode.2, if_pos hq, splitFrom_quoted hzero,
      ih _ h.tail, cutAt_cons_of_not_semicolon rfl]
    simp [Lexeme.text]
  | case5 rest _ _ _ ih =>
    rw [splitFrom_code_cons, if_neg (by simp), if_neg (by simp), if_neg (by simp), if_pos rfl,
      ih _ h.tail]
    rfl
  | case6 c rest hdash hslash hq hs ih =>
    rw [splitFrom_code_plain (head_ne_of_not_opens hdash) (head_ne_of_not_opens hslash) hq hs,
      ih _ h.tail, cutAt_cons_of_not_semicolon rfl]
    rfl

/-- Splitting a script cuts it at the semicolons that stand outside quoted texts and comments.
The lexemes of a script make it up, character by character; where no block comment opens onto a
`/`, the statements are the texts between the semicolons, trimmed, the empty ones dropped. -/
theorem split_statements_follow_lexemes (script : String)
    (h : ∀ l ∈ lexemes script.toList, l.opensOntoSlash = false) :
    (lexemes script.toList).flatMap Lexeme.text = script.toList ∧
      splitStatements script = scriptStatements script :=
  ⟨flatMap_text_lexemes _, by rw [splitStatements, splitFrom_code_eq_cutAt [] _ h, cutAt_nil_lexemes]⟩

/-- A quoted semicolon, a doubled quote and commented semicolons stay inside their statements. -/
theorem split_statements_follow_lexemes_quoted_and_commented :
    (∀ l ∈ lexemes "INSERT INTO t VALUES ('a;''b'); -- c;\n/* d; */ SELECT 1;".toList,
        l.opensOntoSlash = false) ∧
      (lexemes "INSERT INTO t VALUES ('a;''b'); -- c;\n/* d; */ SELECT 1;".toList).flatMap
        Lexeme.text = "INSERT INTO t VALUES ('a;''b'); -- c;\n/* d; */ SELECT 1;".toList ∧
      splitStatements "INSERT INTO t VALUES ('a;''b'); -- c;\n/* d; */ SELECT 1;" =
        scriptStatements "INSERT INTO t VALUES ('a;''b'); -- c;\n/* d; */ SELECT 1;" := by
  have h : ∀ l ∈ lexemes "INSERT INTO t VALUES ('a;''b'); -- c;\n/* d; */ SELECT 1;".toList,
      l.opensOntoSlash = false := by decide +kernel
  exact ⟨h, split_statements_follow_lexemes _ h⟩

/-- In `/*/;*/` the comment opened by `/*` runs to the end, so the script is one statement; the
scan reads the opening star again as the start of `*/`, ends the comment at the third character
and cuts the script at the semicolon inside it. -/
theorem slash_star_slash_comment_is_cut :
    lexemes "/*/;*/".toList = [.blockComment "/;*/".toList] ∧
      scriptStatements "/*/;*/" = ["/*/;*/"] ∧ splitStatements "/*/;*/" = ["/*/", "*/"] := by
  decide +kernel

end MediaTimeline.Sql
