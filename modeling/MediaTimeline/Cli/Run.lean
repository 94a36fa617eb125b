import MediaTimeline.Cli.Settings
import MediaTimeline.Cli.Complete
import MediaTimeline.Config.Decode
import MediaTimeline.Connect.Mysql
import MediaTimeline.Connect.Postgres
import MediaTimeline.Events.Publisher
import MediaTimeline.Deletion.Engine
import MediaTimeline.Sql.Documents

/-! A run of the command line, from its words to what it writes. -/

namespace MediaTimeline.Cli

open Settings Config

/-- What a run leaves: what it wrote to its output and error streams, the
failure it ended with, and whether a worker came up. -/
structure RunOutcome where
  stdout : String := ""
  stderr : String := ""
  error : Option String := none
  served : Bool := false
deriving Inhabited

def RunOutcome.failed (message : String) : RunOutcome :=
  { stderr := "Error: " ++ message ++ "\n", error := some message }

def RunOutcome.printed (text : String) : RunOutcome := { stdout := text }

def RunOutcome.json (v : JsonValue) : RunOutcome := { stdout := v.renderIndented 0 ++ "\n" }

/-- What a command works with: the host, the command line read, and where settings are looked up. -/
structure Invocation where
  host : Host
  command : CommandSpec
  reading : Reading
  sources : SettingSources

def Invocation.setting (inv : Invocation) (name : String) : String :=
  match (boundFlags inv.host).find? (·.name == name) with
  | some f => inv.sources.text inv.reading.given f
  | none => (inv.sources.get name).asText

def Invocation.settingValue (inv : Invocation) (name : String) : SettingValue :=
  match (boundFlags inv.host).find? (·.name == name) with
  | some f => inv.sources.flag inv.reading.given f
  | none => .text ""

def Invocation.flagText (inv : Invocation) (name : String) : String :=
  match inv.reading.given.value? name with
  | some v => v
  | none => ((inv.command.flags.find? (·.name == name)).map (·.default)).getD ""

def Invocation.flagSet (inv : Invocation) (name : String) : Bool :=
  match readBool (inv.flagText name) with
  | .ok b => b
  | .error _ => false

def Invocation.flagInt (inv : Invocation) (name : String) : Int :=
  match readInteger (inv.flagText name) with
  | .ok n => n
  | .error _ => 0

def Invocation.openStore (inv : Invocation) : Except String Unit :=
  match inv.setting "db_driver" with
  | "memory" => .ok ()
  | "mysql" =>
    (Connect.openMysql inv.host (inv.setting "db_dsn") (inv.setting "db_tls_mode")
      (inv.setting "db_tls_ca_file")).mapError ("open mysql: " ++ ·)
  | "postgres" => (Connect.openPostgres inv.host (inv.setting "db_dsn")).mapError ("open postgres: " ++ ·)
  | other => .error ("unknown db_driver " ++ Text.quote other)

def Invocation.withService {α : Type} (inv : Invocation) (step : ServiceM α) (shown : α → RunOutcome) :
    RunOutcome :=
  match inv.openStore with
  | .error e => .failed e
  | .ok () =>
    match (step.run.run.run { store := default }).1 with
    | .ok (.ok a) => shown a
    | .ok (.error f) => .failed f.message
    | .error c => .failed c.message

def readRange (text : String) : Except Fault TimeRange :=
  (TimeRange.parse text).mapError fun e => .invalid (.rangeMalformed e)

def Invocation.rangeFlag (inv : Invocation) : Except Fault (Option TimeRange) :=
  let text := inv.flagText "timerange"
  if text.isEmpty then .ok none else (readRange text).map some

def runToEnd (budget : Int) : Nat → DeleteRequest → ServiceM DeleteRequest
  | 0, req => pure req
  | fuel + 1, req => do
    if req.terminal then return req
    let (_, req) ← ServiceM.runRequest req fun _ => budget
    runToEnd budget fuel req

/-- The outcome of a deletion as printed: what was done at once, the request
left pending, or with `run` the request after running it here. -/
def reportDelete (run : Bool) (o : DeleteOutcome) : ServiceM JsonValue := do
  match o.request with
  | none => pure (.obj [("deleted", JsonValue.int o.deleted), ("status", .str "done")])
  | some req =>
    if !run then return Sql.requestDoc req
    let budget := (← get).config.budget
    let fuel := (← get).store.segments.length + 2
    pure (Sql.requestDoc (← runToEnd budget fuel req))

def Invocation.openBackends (inv : Invocation) : Except String Unit := do
  let configs ← (decodeBackends (inv.sources.get "storage.backends")).mapError
    fun f => "parse storage.backends: " ++ f.message
  for c in configs do
    match Storage.Backend.create c with
    | .ok _ => pure ()
    | .error e => throw ("storage backend " ++ c.id ++ ": create backend " ++ c.id ++ ": " ++ e)

/-- Brings the worker up: the store, the media backends, the event settings
and the publishers they ask for. -/
def Invocation.startWorker (inv : Invocation) : Except String Unit := do
  inv.openStore
  inv.openBackends
  let events ← (decodeEventSettings (inv.sources.get "events")).mapError
    fun f => "parse events config: " ++ f.message
  let events := events.validate
  if events.hasPublishers then discard <| Events.connectAll inv.host events

/-- The way help names the topics it was asked about that name no command: a
topic goes between backquotes unless it holds a backquote, a control character
other than tab, or a byte order mark, and is quoted otherwise. -/
def helpTopics (words : List String) : String :=
  let shown (w : String) : String :=
    if w.all (fun c => c ≠ '\x60' && (c ≥ ' ' || c = '\t') && c ≠ '\x7f' && c ≠ '\uFEFF') then
      String.singleton '\x60' ++ w ++ String.singleton '\x60'
    else Text.quote w
  "[" ++ " ".intercalate (words.map shown) ++ "]"

def Invocation.execute (inv : Invocation) (cmds : List CommandSpec) : RunOutcome :=
  let args := inv.reading.arguments
  let arg (i : Nat) : String := args.getD i ""
  match inv.command.path with
  | [] => .printed (helpText cmds inv.command)
  | ["version"] => .printed (VersionInfo.text {} inv.host.platform)
  | ["help"] =>
    match findCommand cmds args with
    | .ok (c, _) => .printed (helpText cmds c)
    | .error _ => .printed ("Unknown help topic " ++ helpTopics args ++ "\n" ++ usageText cmds
        ((cmds.find? (·.isRoot)).getD default))
  | ["migrate"] =>
    match inv.openStore with
    | .ok () => {}
    | .error e => .failed e
  | ["worker"] =>
    match inv.startWorker with
    | .ok () => { served := true }
    | .error e => .failed e
  | ["segments", "list"] =>
    match inv.rangeFlag with
    | .error f => .failed f.message
    | .ok range =>
      let params : ListParams :=
        { range := range, object := inv.flagText "object_id", reverse := inv.flagSet "reverse_order"
          page := inv.flagText "page", limit := inv.flagInt "limit" }
      inv.withService (ServiceM.listSegments (arg 0) params) fun l =>
        { stdout := (JsonValue.arr (l.segments.map Segment.toDoc)).renderIndented 0 ++ "\n",
          stderr := String.join (l.headers.map fun (k, v) => k ++ ": " ++ v ++ "\n") }
  | ["segments", "post"] =>
    match readRange (arg 2) with
    | .error f => .failed f.message
    | .ok range =>
      inv.withService (ServiceM.postSegment (arg 0) { flow := arg 0, object := arg 1, range := range }) fun _ => {}
  | ["segments", "delete"] =>
    match inv.rangeFlag with
    | .error f => .failed f.message
    | .ok range =>
      inv.withService (do
          let o ← ServiceM.deleteSegments (arg 0) range (inv.flagText "object_id") (inv.flagText "created_by")
          reportDelete (inv.flagSet "run") o) RunOutcome.json
  | ["segments", "timerange"] =>
    inv.withService (ServiceM.flowTimerange (arg 0)) fun r => .printed (r.toText ++ "\n")
  | ["flows", "put"] =>
    let f : Flow :=
      { id := arg 0, source := inv.flagText "source_id", container := inv.flagText "container"
        readOnly := inv.flagSet "read_only", created := .zero, updated := .zero }
    inv.withService (ServiceM.putFlow f) fun f => .json (Sql.flowDoc f)
  | ["flows", "delete"] =>
    inv.withService (do
        let o ← ServiceM.deleteFlow (arg 0) (inv.flagText "created_by")
        reportDelete (inv.flagSet "run") o) RunOutcome.json
  | ["delete-request", "get"] => inv.withService (ServiceM.getRequest (arg 0)) fun r => .json (Sql.requestDoc r)
  | ["delete-request", "list"] =>
    inv.withService (ServiceM.listRequests (arg 0)) fun rs => .json (.arr (rs.map Sql.requestDoc))
  | _ => {}

def ArgRule.problem (rule : ArgRule) (given : Nat) : Option String :=
  match rule with
  | .exactly n =>
    if given = n then none
    else some ("accepts " ++ toString n ++ " arg(s), received " ++ toString given)
  | .atMost n =>
    if given ≤ n then none
    else some ("accepts at most " ++ toString n ++ " arg(s), received " ++ toString given)
  | .unchecked => none

/-- Whether completion offers keep their descriptions: the request of the
command named `name` asks for them unless it is the one without, and then a
setting in the environment may turn them off or on. -/
def completionDescriptions (h : Host) (name : String) : Bool :=
  let setting := match h.variable "TAMS_COMPLETION_DESCRIPTIONS" with
    | "" => h.variable "COBRA_COMPLETION_DESCRIPTIONS"
    | v => v
  name == "__complete" && (readBool setting).toOption.getD true

def completionRun (h : Host) (cmds : List CommandSpec) (name : String) (args : List String) : RunOutcome :=
  if args.isEmpty then .failed "requires at least 1 arg(s), only received 0"
  else
    let r := complete cmds args
    { stdout := r.text (completionDescriptions h name), stderr := r.report }

/-- The command that answers completion requests, when the words call it:
its name and the words left for it. -/
def completionCall (cmds : List CommandSpec) (words : List String) : Option (String × List String) :=
  let flags := searchFlags cmds ((cmds.find? (·.isRoot)).getD default)
  match plainWords flags words with
  | w :: _ => if completionRequestNames.contains w then some (w, withoutFirst flags w words) else none
  | [] => none

def run (h : Host) (words : List String) : RunOutcome :=
  let cmds := commands h
  match completionCall cmds words with
  | some (name, args) => completionRun h cmds name args
  | none =>
  match findCommand cmds words with
  | .error (c, message) =>
    { stderr := "Error: " ++ message ++ "\nRun '" ++ c.commandPath ++ " --help' for usage.\n", error := some message }
  | .ok (c, rest) =>
    match readWords (runFlags cmds c) rest {} with
    | .error .help => .printed (helpText cmds c)
    | .error (.fault message) => .failed message
    | .ok reading =>
      let isSet (name : String) : Bool := match reading.given.value? name with
        | some v => (readBool v).toOption.getD false
        | none => false
      if isSet "help" then .printed (helpText cmds c)
      else if c.isRoot && isSet "version" then .printed ("TAMS " ++ ({} : VersionInfo).version ++ "\n")
      else if !c.runnable then .printed (helpText cmds c)
      else match c.args.problem reading.arguments.length with
        | some p => .failed p
        | none =>
          let configDir := (reading.given.value? "config_dir").getD "."
          let sources : SettingSources := { host := h, given := reading.given, file := loadConfig h configDir "tams" }
          Invocation.execute { host := h, command := c, reading, sources } cmds

end MediaTimeline.Cli
