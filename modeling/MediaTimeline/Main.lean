import MediaTimeline.Cli.Run

/-! The `tams` program: the command line run on this machine. -/

open MediaTimeline

def watchedVariables : List String :=
  ["HOME", "TAMS_EVENTS", "TAMS_STORAGE_BACKENDS"] ++
    (Cli.boundFlags default).map (Cli.variableFor ·.name) ++
    Connect.environmentSettings.map (·.1)

/-- The files a run with these words may open, by the names it uses. -/
def wantedFiles (h : Host) (words : List String) : List String :=
  let named := (words.zip (words.drop 1)).filterMap fun (w, v) =>
    if w = "--db_tls_ca_file" then some v else none
  let inline := words.filterMap fun w =>
    if w.startsWith "--db_tls_ca_file=" then some (String.ofList (w.toList.drop 17)) else none
  let dir := ((words.zip (words.drop 1)).find? (·.1 = "--config_dir")).map (·.2) |>.getD "."
  let services := words.flatMap fun w => (w.splitOn " ").filterMap fun part =>
    if part.startsWith "servicefile=" then some (String.ofList (part.toList.drop 12)) else none
  ((Cli.configDirs h dir).flatMap fun d => Cli.configExtensions.map fun e => Text.joinPath [d, "tams." ++ e]) ++
    (named ++ inline ++ services ++ [h.variable "TAMS_DB_TLS_CA_FILE", h.variable "PGSSLROOTCERT",
      h.variable "PGSERVICEFILE", Text.joinPath [h.accountHome, ".pg_service.conf"]]).filterMap fun p =>
      if p.isEmpty then none else some (h.absolutePath p)

def readIfThere (path : String) : IO (Option (String × String)) := do
  try
    return some (path, ← IO.FS.readFile path)
  catch _ =>
    return none

def main (words : List String) : IO UInt32 := do
  let cwd ← IO.currentDir
  let mut environment := []
  for name in watchedVariables do
    if let some v ← IO.getEnv name then environment := environment ++ [(name, v)]
  let home := (environment.lookup "HOME").getD "/"
  let bare : Host :=
    { platform := ⟨"lean", "linux", "amd64"⟩, userHome := home, workDir := cwd.toString
      environment := environment }
  let mut files := []
  for path in wantedFiles bare words do
    if let some f ← readIfThere path then files := files ++ [f]
  let servers := match ← readIfThere "/etc/resolv.conf" with
    | some (_, conf) => nameServersOf conf
    | none => nameServersOf ""
  let outcome := Cli.run { bare with files := files, nameServers := servers } words
  IO.print outcome.stdout
  IO.eprint outcome.stderr
  return if outcome.error.isSome then 1 else 0
