import MediaTimeline.Sql.Value
import MediaTimeline.Text.Blank
import MediaTimeline.Text.Infix

/-! A database connection that answers from a script. -/

namespace MediaTimeline.Sql

/-- A failure reported by the database. -/
inductive ServerError where
  | plain (text : String)
  | mysql (number : Int) (message : String)
  | postgres (code message : String)
deriving DecidableEq, Inhabited

def ServerError.message : ServerError → String
  | .plain t => t
  | .mysql n m => "Error " ++ toString n ++ ": " ++ m
  | .postgres c m => ": " ++ m ++ " (SQLSTATE " ++ c ++ ")"

/-- Whether a failure is a deadlock: MySQL's number 1213, Postgres's code
`40P01`, or for other failures a text that mentions one. -/
def ServerError.isDeadlock : ServerError → Bool
  | .mysql n _ => n == 1213
  | .postgres c _ => c == "40P01"
  | .plain t => ["Error 1213", "Deadlock", "40P01", "deadlock detected"].any (Text.containsText t)

/-- One answer of the script. -/
structure Response where
  failure : Option ServerError := none
  affected : Int := 1
  affectedProblem : Option String := none
  rows : List (List SqlValue) := []
  rowProblem : Option String := none
deriving Inhabited

/-- An entry of the log. -/
inductive LogEntry where
  | exec (sql : String) (args : List SqlValue)
  | query (sql : String) (args : List SqlValue)
  | event (name : String)
deriving Inhabited

/-- The connection: the answers left, the log, and the transaction events that fail. -/
structure Connection where
  script : List Response := []
  log : List LogEntry := []
  failBegin : Option String := none
  failCommit : Option String := none
  failRollback : Option String := none
  failPing : Option String := none
  now : Instant := .zero
deriving Inhabited

abbrev ConnM := ExceptT ServerError (StateM Connection)

/-- A statement's text with every run of blanks made one space, and no blank at either end. -/
def collapseBlanks (sql : String) : String :=
  " ".intercalate ((sql.toList.splitBy fun a b => Text.isBlank a == Text.isBlank b).filterMap fun w =>
    if w.all Text.isBlank then none else some (String.ofList w))

def record (e : LogEntry) : ConnM Unit :=
  modify fun c => { c with log := c.log ++ [e] }

def nextResponse : ConnM Response :=
  modifyGet fun c => match c.script with
    | r :: rest => (r, { c with script := rest })
    | [] => ({}, c)

/-- What an executed statement reports: the count of affected rows, which may fail to be read. -/
structure ExecResult where
  affected : Int
  problem : Option String

/-- Rows a query returns, and the failure met after the last, if any. -/
structure Rows where
  rows : List (List SqlValue)
  problem : Option String

def exec (sql : String) (args : List SqlValue) : ConnM ExecResult := do
  record (.exec (collapseBlanks sql) args)
  let r ← nextResponse
  if let some e := r.failure then throw e
  pure ⟨r.affected, r.affectedProblem⟩

def query (sql : String) (args : List SqlValue) : ConnM Rows := do
  record (.query (collapseBlanks sql) args)
  let r ← nextResponse
  if let some e := r.failure then throw e
  pure ⟨r.rows, r.rowProblem⟩

def ping : ConnM Unit := do
  record (.event "PING")
  if let some e := (← get).failPing then throw (.plain e)

def beginTx : ConnM Unit := do
  record (.event "BEGIN")
  if let some e := (← get).failBegin then throw (.plain e)

def commitTx : ConnM Unit := do
  record (.event "COMMIT")
  if let some e := (← get).failCommit then throw (.plain e)

def rollbackTx : ConnM Unit := do
  record (.event "ROLLBACK")
  if let some e := (← get).failRollback then throw (.plain e)

def attempt {α : Type} (m : ConnM α) : ConnM (Except ServerError α) :=
  tryCatch (Except.ok <$> m) fun e => pure (.error e)

/-- The first row stored into destinations; none when there is no row and no failure. -/
def Rows.first? (r : Rows) (targets : List Target) : Except ServerError (Option (List SqlValue)) :=
  match r.rows with
  | [] => match r.problem with
    | some p => .error (.plain p)
    | none => .ok none
  | row :: _ => ((storeRow row targets).map some).mapError .plain

def Rows.all (r : Rows) (targets : List Target) : Except ServerError (List (List SqlValue)) := do
  let rows ← (r.rows.mapM fun row => storeRow row targets).mapError .plain
  if let some p := r.problem then throw (.plain p)
  pure rows

end MediaTimeline.Sql
