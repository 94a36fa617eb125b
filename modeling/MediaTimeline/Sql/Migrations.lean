import MediaTimeline.Sql.Schema
import MediaTimeline.Text.Path
import MediaTimeline.Fault

/-! Loading the migrations of a dialect. -/

namespace MediaTimeline.Sql

/-- One schema migration. -/
structure Migration where
  version : Nat
  name : String
  text : String

/-- Why a directory cannot be listed. -/
inductive MigrationError where
  | missing (dir : String)
  | notDirectory (dir : String)

def MigrationError.message : MigrationError → String
  | .missing d => "read migrations dir " ++ d ++ ": open " ++ d ++ ": file does not exist"
  | .notDirectory d => "read migrations dir " ++ d ++ ": read " ++ d ++ ": not a directory"

/-- An entry of a directory: its name, and whether it is a directory itself. -/
structure Entry where
  name : String
  isDir : Bool
deriving DecidableEq

def relativeTo (dir path : String) : Option String :=
  if dir = "." then some path
  else if path.startsWith (dir ++ "/") then some (path.drop (dir.length + 1)).toString
  else none

/-- The entries of a directory of the migration tree, sorted by name. -/
def listDir (dir : String) : Except MigrationError (List Entry) :=
  if !Text.isValidPath dir then .error (.missing dir)
  else if migrationFiles.any (·.1 = dir) then .error (.notDirectory dir)
  else
    let entries := migrationFiles.filterMap fun (p, _) =>
      (relativeTo dir p).map fun rel =>
        match rel.splitOn "/" with
        | [name] => ⟨name, false⟩
        | name :: _ => ⟨name, true⟩
        | [] => ⟨rel, false⟩
    if entries.isEmpty && dir != "." then .error (.missing dir)
    else .ok ((entries.eraseDups).mergeSort (fun a b => a.name ≤ b.name))

def parseFileName (file : String) : Nat × String :=
  let cs := file.toList
  let digits := cs.takeWhile Char.isDigit
  let version := digits.foldl (fun acc d => acc * 10 + (d.toNat - '0'.toNat)) 0
  let rest := (cs.drop digits.length).drop 1
  (version, String.ofList (rest.take (rest.length - 4)))

def loadMigrations (dialect : String) : Except MigrationError (List Migration) := do
  let dir := Text.joinPath ["migrations", dialect]
  let entries ← listDir dir
  let found := entries.filterMap fun e =>
    if e.isDir || !e.name.endsWith ".sql" then none
    else
      let (version, name) := parseFileName e.name
      let path := if dir = "." then e.name else dir ++ "/" ++ e.name
      some ⟨version, name, ((migrationFiles.find? (·.1 = path)).map (·.2)).getD ""⟩
  pure (found.mergeSort (fun a b => a.version ≤ b.version))

end MediaTimeline.Sql
