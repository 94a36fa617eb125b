import MediaTimeline.Cli.Flags
import MediaTimeline.Host.Address
import MediaTimeline.Settings.Duration
import MediaTimeline.Text.Case

/-! The commands of the command line, how a command line picks one, and the help each command
prints. -/

namespace MediaTimeline.Cli

open Settings

/-- How many arguments a command takes. -/
inductive ArgRule where
  | unchecked
  | exactly (n : Nat)
  | atMost (n : Nat)
deriving DecidableEq, Inhabited

/-- What a command offers when asked to complete one of its arguments. -/
inductive ArgCompletion where
  | nothing
  | commandNames
  | noFiles
deriving DecidableEq, Inhabited

/-- A command: its path of names below the root, its usage line, its
descriptions, the arguments it takes, whether it can run, its flags, and what
it offers to complete an argument. -/
structure CommandSpec where
  path : List String
  use : String
  short : String
  long : String := ""
  args : ArgRule := .unchecked
  runnable : Bool := true
  flags : List FlagSpec := []
  persistent : List FlagSpec := []
  argCompletion : ArgCompletion := .nothing
  flagsInUseLine : Bool := true
deriving Inhabited

def textFlag (name default usage : String) : FlagSpec := { name, kind := .text, default, usage }

def intFlag (name : String) (default : Int) (usage : String) : FlagSpec :=
  { name, kind := .integer, default := toString default, usage }

def truthFlag (name usage : String) : FlagSpec := { name, kind := .truth, default := "false", usage }

def durationFlag (name : String) (default : Int) (usage : String) : FlagSpec :=
  { name, kind := .duration, default := durationText default, usage }

def second : Int := 1000000000

def rootFlags : List FlagSpec :=
  [textFlag "config_dir" "." "Directory for configuration files",
   textFlag "log_level" "info" "Log level (trace, debug, info, warn, error)",
   textFlag "env" "local" "Deployment environment (local, testing, production)",
   textFlag "db_driver" "memory" "Metadata database driver (memory, mysql, postgres)",
   textFlag "db_dsn" "" "Metadata database DSN",
   intFlag "db_max_open_conns" 25 "Maximum open database connections",
   intFlag "db_max_idle_conns" 5 "Maximum idle database connections",
   textFlag "db_tls_mode" "disabled" "MySQL TLS mode (disabled, preferred, required, verify-ca)",
   textFlag "db_tls_ca_file" "" "CA bundle for db_tls_mode=verify-ca"]

def workerFlags (h : Host) : List FlagSpec :=
  [textFlag "ip" h.announcedAddress "IP address for the debug server",
   intFlag "debug_port" 8095 "Debug HTTP port (metrics, health, pprof)",
   textFlag "worker_id" "" "Worker identifier (defaults to hostname)",
   intFlag "worker_concurrency" 5 "Tasks processed in parallel",
   durationFlag "worker_poll_interval" second "Queue poll interval when idle",
   durationFlag "worker_task_timeout" (120 * second) "Upper bound on a single task",
   durationFlag "delete_invocation_budget" (60 * second) "Time one delete_request task may run before checkpointing",
   intFlag "delete_batch_size" 100 "Segments deleted per batch",
   durationFlag "delete_safety_margin" (5 * second) "Remaining budget below which a delete checkpoints",
   intFlag "dispatch_max_message_size" 250000 "Maximum serialized size of one object_cleanup payload",
   { name := "cleanup_deletes_per_second", kind := .fraction, default := "0",
     usage := "Rate limit on blob deletes (0 = unlimited)" },
   durationFlag "retain_completed_tasks" (86400 * second) "How long completed tasks are kept",
   truthFlag "auto_migrate" "Apply database migrations on startup"]

def shellScriptHelp : String → String
  | "bash" =>
    "Generate the autocompletion script for the bash shell.\n\n" ++
    "This script depends on the 'bash-completion' package.\n" ++
    "If it is not installed already, you can install it via your OS's package manager.\n\n" ++
    "To load completions in your current shell session:\n\n\tsource <(tams completion bash)\n\n" ++
    "To load completions for every new session, execute once:\n\n" ++
    "#### Linux:\n\n\ttams completion bash > /etc/bash_completion.d/tams\n\n" ++
    "#### macOS:\n\n\ttams completion bash > $(brew --prefix)/etc/bash_completion.d/tams\n\n" ++
    "You will need to start a new shell for this setup to take effect.\n"
  | "zsh" =>
    "Generate the autocompletion script for the zsh shell.\n\n" ++
    "If shell completion is not already enabled in your environment you will need\n" ++
    "to enable it.  You can execute the following once:\n\n" ++
    "\techo \"autoload -U compinit; compinit\" >> ~/.zshrc\n\n" ++
    "To load completions in your current shell session:\n\n\tsource <(tams completion zsh)\n\n" ++
    "To load completions for every new session, execute once:\n\n" ++
    "#### Linux:\n\n\ttams completion zsh > \"$\x7bfpath[1]\x7d/_tams\"\n\n" ++
    "#### macOS:\n\n\ttams completion zsh > $(brew --prefix)/share/zsh/site-functions/_tams\n\n" ++
    "You will need to start a new shell for this setup to take effect.\n"
  | "fish" =>
    "Generate the autocompletion script for the fish shell.\n\n" ++
    "To load completions in your current shell session:\n\n\ttams completion fish | source\n\n" ++
    "To load completions for every new session, execute once:\n\n" ++
    "\ttams completion fish > ~/.config/fish/completions/tams.fish\n\n" ++
    "You will need to start a new shell for this setup to take effect.\n"
  | _ =>
    "Generate the autocompletion script for powershell.\n\n" ++
    "To load completions in your current shell session:\n\n" ++
    "\ttams completion powershell | Out-String | Invoke-Expression\n\n" ++
    "To load completions for every new session, add the output of the above command\n" ++
    "to your powershell profile.\n"

def commands (h : Host) : List CommandSpec :=
  [{ path := [], use := "tams", short := "TAMS - time-addressable media store",
     long := "TAMS stores media flows as time-indexed segments that point at media\n" ++
       "objects. This binary runs the background worker that executes bulk segment\n" ++
       "deletes, cleans up unreferenced media objects and delivers change events, and\n" ++
       "provides admin commands over the metadata database.",
     persistent := rootFlags },
   { path := ["version"], use := "version", short := "Print version information" },
   { path := ["migrate"], use := "migrate", short := "Apply metadata database migrations",
     long := "Create or upgrade the segments, flows, delete_requests and tasks tables.\n" ++
       "Already applied migrations are skipped." },
   { path := ["worker"], use := "worker", short := "Run the background task worker",
     long := "Run the task worker that executes:\n" ++
       "- delete_request tasks: time-boxed, checkpointed bulk segment deletes\n" ++
       "- object_cleanup tasks: removal of media objects no segment references\n" ++
       "- event tasks: delivery of segment and flow change events to Redis/Kafka",
     flags := workerFlags h },
   { path := ["segments"], use := "segments", short := "Inspect and modify flow segments", runnable := false },
   { path := ["segments", "list"], use := "list <flow_id>", short := "List one page of a flow's segments",
     args := .exactly 1,
     flags := [textFlag "timerange" "" "Only segments intersecting this timerange",
       textFlag "object_id" "" "Only segments referencing this object",
       truthFlag "reverse_order" "Newest segments first",
       textFlag "page" "" "Page token from a previous listing", intFlag "limit" 30 "Page size"] },
   { path := ["segments", "post"], use := "post <flow_id> <object_id> <timerange>",
     short := "Add a segment to a flow", args := .exactly 3 },
   { path := ["segments", "delete"], use := "delete <flow_id>", short := "Delete a flow's segments within a timerange",
     long := "Delete the segments of a flow that intersect --timerange (default: all).\n" ++
       "Deletes scoped by --object_id complete immediately. Otherwise a delete request\n" ++
       "is submitted for the worker; --run executes it in this process instead.",
     args := .exactly 1,
     flags := [textFlag "timerange" "" "Delete segments intersecting this timerange",
       textFlag "object_id" "" "Only delete segments referencing this object",
       textFlag "created_by" "" "Recorded on the delete request",
       truthFlag "run" "Run the delete request in this process"] },
   { path := ["segments", "timerange"], use := "timerange <flow_id>",
     short := "Print the timerange spanned by a flow's segments", args := .exactly 1 },
   { path := ["flows"], use := "flows", short := "Manage flows", runnable := false },
   { path := ["flows", "put"], use := "put <flow_id>", short := "Create or update a flow", args := .exactly 1,
     flags := [textFlag "source_id" "" "Source the flow belongs to",
       textFlag "container" "" "Media container mime type",
       truthFlag "read_only" "Reject segment writes and deletes"] },
   { path := ["flows", "delete"], use := "delete <flow_id>", short := "Delete a flow and all of its segments",
     args := .exactly 1,
     flags := [textFlag "created_by" "" "Recorded on the delete request",
       truthFlag "run" "Run the delete request in this process"] },
   { path := ["delete-request"], use := "delete-request", short := "Inspect delete requests", runnable := false },
   { path := ["delete-request", "get"], use := "get <id>", short := "Show a delete request", args := .exactly 1 },
   { path := ["delete-request", "list"], use := "list [flow_id]",
     short := "List delete requests, optionally for one flow", args := .atMost 1 },
   { path := ["help"], use := "help [command]", short := "Help about any command",
     long := "Help provides help for any command in the application.\n" ++
       "Simply type tams help [path to command] for full details.",
     argCompletion := .commandNames },
   { path := ["completion"], use := "completion", short := "Generate the autocompletion script for the specified shell",
     long := "Generate the autocompletion script for tams for the specified shell.\n" ++
       "See each sub-command's help for details on how to use the generated script.\n",
     args := .exactly 0, runnable := false, argCompletion := .noFiles }] ++
  [("bash", shellScriptHelp "bash"), ("zsh", shellScriptHelp "zsh"), ("fish", shellScriptHelp "fish"),
    ("powershell", shellScriptHelp "powershell")].map fun (sh, long) =>
    { path := ["completion", sh], use := sh, short := "Generate the autocompletion script for " ++ sh,
      long := long, args := .exactly 0, flags := [truthFlag "no-descriptions" "disable completion descriptions"],
      argCompletion := .noFiles, flagsInUseLine := false }

namespace CommandSpec

def name (c : CommandSpec) : String := (c.use.splitOn " ").headD c.use

def commandPath (c : CommandSpec) : String := " ".intercalate ("tams" :: c.path)

def isRoot (c : CommandSpec) : Bool := c.path.isEmpty

def helpFlag (c : CommandSpec) : FlagSpec :=
  { name := "help", letter := some 'h', kind := .truth, default := "false", usage := "help for " ++ c.name }

end CommandSpec

def versionFlag : FlagSpec :=
  { name := "version", letter := some 'v', kind := .truth, default := "false", usage := "version for tams" }

def insertByName (c : CommandSpec) : List CommandSpec → List CommandSpec
  | [] => [c]
  | d :: ds => if c.name < d.name then c :: d :: ds else d :: insertByName c ds

def childrenOf (cmds : List CommandSpec) (c : CommandSpec) : List CommandSpec :=
  (cmds.filter fun d => d.path.length = c.path.length + 1 && d.path.take c.path.length == c.path).foldr
    insertByName []

def inheritedFlags (cmds : List CommandSpec) (c : CommandSpec) : List FlagSpec :=
  let above := cmds.filter fun d => d.path.length < c.path.length && c.path.take d.path.length == d.path
  (above.flatMap (·.persistent)).filter fun f => !(c.flags ++ c.persistent).any (·.name == f.name)

def searchFlags (cmds : List CommandSpec) (c : CommandSpec) : List FlagSpec :=
  c.flags ++ c.persistent ++ inheritedFlags cmds c

def runFlags (cmds : List CommandSpec) (c : CommandSpec) : List FlagSpec :=
  searchFlags cmds c ++ [c.helpFlag] ++ (if c.isRoot then [versionFlag] else [])

/-- Whether a word names a flag that takes no value, by its long name (`long`) or its letter. -/
def namesValuelessFlag (flags : List FlagSpec) (long : Bool) (name : String) : Bool :=
  flags.any fun f => f.takesNoValue && (if long then f.name == name else f.letter == name.toList.head?)

/-- Whether a word is a flag that is followed by its value as the next word. A
single letter counts only when the word is two bytes long. -/
def takesNextWord (flags : List FlagSpec) (w : String) : Bool :=
  !w.contains '=' &&
    ((w.startsWith "--" && !namesValuelessFlag flags true (String.ofList (w.toList.drop 2))) ||
     (w.startsWith "-" && !w.startsWith "--" && w.utf8ByteSize = 2 &&
       !namesValuelessFlag flags false (String.ofList (w.toList.drop 1))))

def plainWords (flags : List FlagSpec) : List String → List String
  | [] => []
  | w :: rest =>
    if w = "--" then []
    else if takesNextWord flags w then
      match rest with
      | [] | [_] => []
      | _ :: rest' => plainWords flags rest'
    else if !w.isEmpty && !w.startsWith "-" then w :: plainWords flags rest
    else plainWords flags rest

def withoutFirst (flags : List FlagSpec) (x : String) : List String → List String
  | [] => []
  | w :: rest =>
    if w = "--" then w :: rest
    else if takesNextWord flags w then
      match rest with
      | [] => [w]
      | v :: rest' => w :: v :: withoutFirst flags x rest'
    else if !w.startsWith "-" && w = x then rest
    else w :: withoutFirst flags x rest

/-- Follows the words from command `c` down the tree; answers the command
reached and the words left for it. -/
def descend (cmds : List CommandSpec) : Nat → CommandSpec → List String → CommandSpec × List String
  | 0, c, words => (c, words)
  | fuel + 1, c, words =>
    match plainWords (searchFlags cmds c) words with
    | [] => (c, words)
    | next :: _ =>
      match (childrenOf cmds c).find? (·.name == next) with
      | some d => descend cmds fuel d (withoutFirst (searchFlags cmds c) next words)
      | none => (c, words)

/-- The edit distance of two texts in lower case, counted in the bytes of their
UTF-8 encodings. -/
def editDistance (a b : String) : Nat :=
  let s := (Text.lowerText a).toUTF8.toList
  let t := (Text.lowerText b).toUTF8.toList
  let first := List.range (t.length + 1)
  let last := s.foldl (fun (prev : List Nat) (c : UInt8) =>
    let (row, _) := (t.zip (prev.zip prev.tail)).foldl (fun (acc : List Nat × Nat) (x : UInt8 × Nat × Nat) =>
      let (row, left) := acc
      let (d, diag, up) := x
      let v := min (min (left + 1) (up + 1)) (diag + if d = c then 0 else 1)
      (row ++ [v], v)) ([prev.headD 0 + 1], prev.headD 0 + 1)
    row) first
  last.getLastD 0

def available (cmds : List CommandSpec) : Nat → CommandSpec → Bool
  | 0, _ => false
  | fuel + 1, c => c.path != ["help"] && (c.runnable || (childrenOf cmds c).any (available cmds fuel))

/-- The commands suggested for a word that names none: those close to it or starting with it. -/
def suggestions (cmds : List CommandSpec) (c : CommandSpec) (word : String) : String :=
  let close := (childrenOf cmds c).filter fun d =>
    available cmds 4 d && (editDistance word d.name ≤ 2 || (Text.lowerText d.name).startsWith (Text.lowerText word))
  if close.isEmpty then ""
  else "\n\nDid you mean this?\n" ++ String.join (close.map fun d => "\t" ++ d.name ++ "\n")

/-- The command a command line names and the words left for it, or why the
words name none. -/
def findCommand (cmds : List CommandSpec) (words : List String) : Except (CommandSpec × String) (CommandSpec × List String) :=
  let root := (cmds.find? (·.isRoot)).getD default
  let (c, rest) := descend cmds (words.length + 1) root words
  if c.args == .unchecked && c.isRoot && !(childrenOf cmds c).isEmpty then
    match plainWords (searchFlags cmds c) rest with
    | w :: _ => .error (c, "unknown command " ++ Text.quote w ++ " for " ++ Text.quote c.commandPath ++ suggestions cmds c w)
    | [] => .ok (c, rest)
  else .ok (c, rest)

/-! ### Help -/

def valueName : SettingKind → String
  | .text => "string"
  | .integer => "int"
  | .truth => ""
  | .fraction => "float"
  | .duration => "duration"
  | .texts => "strings"

def FlagSpec.defaultIsZero (f : FlagSpec) : Bool :=
  match f.kind with
  | .text => f.default.isEmpty
  | .truth => f.default == "false"
  | .duration => f.default == "0" || f.default == "0s"
  | .texts => f.default == "[]"
  | _ => f.default == "0"

def FlagSpec.helpParts (f : FlagSpec) : String × String :=
  let names := match f.letter with
    | some c => "  -" ++ String.singleton c ++ ", --" ++ f.name
    | none => "      --" ++ f.name
  let v := valueName f.kind
  let left := if v.isEmpty then names else names ++ " " ++ v
  let dflt := if f.defaultIsZero then ""
    else if f.kind == .text then " (default " ++ Text.quote f.default ++ ")"
    else " (default " ++ f.default ++ ")"
  (left, f.usage ++ dflt)

def insertFlag (f : FlagSpec) : List FlagSpec → List FlagSpec
  | [] => [f]
  | g :: gs => if f.name < g.name then f :: g :: gs else g :: insertFlag f gs

/-- The help lines of flags, in name order, their usages aligned one column
after the longest names. -/
def flagUsages (flags : List FlagSpec) : String :=
  let parts := (flags.foldr insertFlag []).map FlagSpec.helpParts
  let width := (parts.map fun p => p.1.length + 1).foldl max 0
  "\n".intercalate (parts.map fun (l, u) => l ++ " " ++ String.ofList (List.replicate (width - l.length) ' ') ++ " " ++ u)

def padRight (s : String) (n : Nat) : String := s ++ String.ofList (List.replicate (n - s.length) ' ')

def trimEnd (s : String) : String := String.ofList (s.toList.reverse.dropWhile Text.isBlank).reverse

def usageText (cmds : List CommandSpec) (c : CommandSpec) : String :=
  let kids := childrenOf cmds c
  let offered := kids.filter (available cmds 4)
  let pad := (kids.map (·.name.length)).foldl max 11
  let useLine := (if c.isRoot then c.use else " ".intercalate ("tams" :: c.path.dropLast) ++ " " ++ c.use) ++
    if c.flagsInUseLine then " [flags]" else ""
  let own := c.flags ++ c.persistent ++ [c.helpFlag] ++ (if c.isRoot then [versionFlag] else [])
  let inherited := inheritedFlags cmds c
  "Usage:" ++ (if c.runnable then "\n  " ++ useLine else "") ++
    (if offered.isEmpty then "" else "\n  " ++ c.commandPath ++ " [command]") ++
    (if offered.isEmpty then "" else "\n\nAvailable Commands:" ++ String.join ((kids.filter fun d =>
        available cmds 4 d || d.name == "help").map fun d => "\n  " ++ padRight d.name pad ++ " " ++ d.short)) ++
    "\n\nFlags:\n" ++ flagUsages own ++
    (if inherited.isEmpty then "" else "\n\nGlobal Flags:\n" ++ flagUsages inherited) ++
    (if offered.isEmpty then "" else
      "\n\nUse \"" ++ c.commandPath ++ " [command] --help\" for more information about a command.") ++ "\n"

def helpText (cmds : List CommandSpec) (c : CommandSpec) : String :=
  let about := trimEnd (if c.long.isEmpty then c.short else c.long)
  (if about.isEmpty then "" else about ++ "\n\n") ++
    (if c.runnable || !(childrenOf cmds c).isEmpty then usageText cmds c else "")

end MediaTimeline.Cli
