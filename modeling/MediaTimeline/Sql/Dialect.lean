import MediaTimeline.Text.Blank
import MediaTimeline.Text.Infix

/-! The two SQL dialects the stores speak. -/

namespace MediaTimeline.Sql

/-- A SQL dialect. -/
inductive Dialect where
  | postgres
  | mysql
deriving DecidableEq, Inhabited

namespace Dialect

def name : Dialect → String
  | .postgres => "postgres"
  | .mysql => "mysql"

def placeholder : Dialect → Int → String
  | .postgres, n => "$" ++ toString n
  | .mysql, _ => "?"

def questionMarks (skipping : Bool) : List Char → List Char
  | [] => []
  | c :: rest =>
    if skipping && c.isDigit then questionMarks true rest
    else if c = '$' && (rest.head?.any Char.isDigit) then '?' :: questionMarks true rest
    else c :: questionMarks false rest

def rewritePlaceholders : Dialect → String → String
  | .postgres, q => q
  | .mysql, q => String.ofList (questionMarks false q.toList)

/-- The clause that turns an insert into an upsert on a conflict of `conflict`,
updating `updates`; with nothing to update the row is left alone. -/
def upsertSuffix : Dialect → String → List String → String
  | .postgres, conflict, [] => " ON CONFLICT (" ++ conflict ++ ") DO NOTHING"
  | .postgres, conflict, cols =>
    " ON CONFLICT (" ++ conflict ++ ") DO UPDATE SET " ++
      String.intercalate ", " (cols.map fun c => c ++ " = EXCLUDED." ++ c)
  | .mysql, conflict, [] =>
    let first := Text.trimBlank ((conflict.splitOn ",").headD "")
    " ON DUPLICATE KEY UPDATE " ++ first ++ " = " ++ first
  | .mysql, _, cols =>
    " ON DUPLICATE KEY UPDATE " ++ String.intercalate ", " (cols.map fun c => c ++ " = VALUES(" ++ c ++ ")")

def isDuplicateKey : Dialect → String → Bool
  | .postgres, e => Text.containsText e "SQLSTATE 23505"
  | .mysql, e => Text.containsText e "Error 1062"

end Dialect

end MediaTimeline.Sql
