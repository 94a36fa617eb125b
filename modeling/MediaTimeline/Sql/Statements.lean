import MediaTimeline.Text.Blank

/-! Splitting a migration script into statements. -/

namespace MediaTimeline.Sql

/-- Where a scan of a script stands. -/
inductive ScanMode where
  | code
  | quoted (q : Char)
  | lineComment
  | blockComment
deriving DecidableEq, Inhabited

/-- The statements of what is left of a script, given the mode the scan is in
and the text of the statement so far, reversed. -/
def splitFrom (mode : ScanMode) (current : List Char) : List Char → List String
  | [] => let s := Text.trimBlank (String.ofList current.reverse); if s.isEmpty then [] else [s]
  | c :: rest =>
    let next := rest.headD (Char.ofNat 0)
    match mode with
    | .lineComment => splitFrom (if c = '\n' then .code else .lineComment) (c :: current) rest
    | .blockComment =>
      if c = '*' ∧ next = '/' then splitFrom .code (next :: c :: current) rest.tail
      else splitFrom .blockComment (c :: current) rest
    | .quoted q =>
      if c = q then
        if next = q then splitFrom (.quoted q) (next :: c :: current) rest.tail
        else splitFrom .code (c :: current) rest
      else splitFrom (.quoted q) (c :: current) rest
    | .code =>
      if c = '-' ∧ next = '-' then splitFrom .lineComment (c :: current) rest
      else if c = '/' ∧ next = '*' then splitFrom .blockComment (c :: current) rest
      else if c = '\'' ∨ c = '"' then splitFrom (.quoted c) (c :: current) rest
      else if c = ';' then
        let s := Text.trimBlank (String.ofList current.reverse)
        (if s.isEmpty then [] else [s]) ++ splitFrom .code [] rest
      else splitFrom .code (c :: current) rest
termination_by cs => cs.length
decreasing_by all_goals simp only [List.length_cons, List.length_tail]; omega

def splitStatements (script : String) : List String := splitFrom .code [] script.toList

def isCommentLine (line : String) : Bool :=
  let t := Text.trimBlank line
  t.isEmpty || t.startsWith "--"

def lines (text : String) : List String := (text.toList.splitOn '\n').map String.ofList

def stripLeadingComments (stmt : String) : String :=
  Text.trimBlank ("\n".intercalate ((lines stmt).dropWhile isCommentLine))

end MediaTimeline.Sql
