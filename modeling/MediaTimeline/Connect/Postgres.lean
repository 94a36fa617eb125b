import MediaTimeline.Host.Dial
import MediaTimeline.Host.Paths
import MediaTimeline.Text.UrlForm
import MediaTimeline.Text.Blank
import MediaTimeline.Settings.Number
import MediaTimeline.Connect.Certificate

/-! Connecting to a PostgreSQL server. -/

namespace MediaTimeline.Connect

abbrev PgSettings := List (String × String)

def PgSettings.find? (s : PgSettings) (k : String) : Option String := s.reverse.lookup k

def PgSettings.get (s : PgSettings) (k : String) : String := (s.find? k).getD ""

def settingName (k : String) : String := if k = "dbname" then "database" else k

/-! ### Keyword and value strings -/

def isSettingBlank (c : Char) : Bool := c = ' ' || c = '\t' || c = '\n' || c = '\r' || c = '\x0b' || c = '\x0c'

def unescapeSettingValue (cs : List Char) : String :=
  let s := String.ofList cs
  ((s.replace "\\\\" "\\").replace "\\'" "'")

def plainValueEnd : List Char → Nat → Option Nat
  | [], n => some n
  | c :: rest, n =>
    if isSettingBlank c then some n
    else if c = '\\' then
      match rest with
      | [] => none
      | _ :: rest' => plainValueEnd rest' (n + 2)
    else plainValueEnd rest (n + 1)

def quotedValueEnd : List Char → Nat → Option Nat
  | [], _ => none
  | c :: rest, n =>
    if c = '\'' then some n
    else if c = '\\' then
      match rest with
      | [] => none
      | _ :: rest' => quotedValueEnd rest' (n + 2)
    else quotedValueEnd rest (n + 1)

def keywordSettings (acc : PgSettings) (cs : List Char) : Except String PgSettings :=
  if cs.isEmpty then .ok acc
  else
    match cs.findIdx? (· = '=') with
    | none => .error "invalid keyword/value"
    | some eq =>
      let key := settingName (String.ofList (((cs.take eq).dropWhile isSettingBlank).reverse.dropWhile isSettingBlank).reverse)
      let afterEq := (cs.drop (eq + 1)).dropWhile isSettingBlank
      let step : Except String (String × List Char) :=
        match afterEq with
        | [] => .ok ("", [])
        | '\'' :: quoted =>
          match quotedValueEnd quoted 0 with
          | none => .error "unterminated quoted string in connection info string"
          | some e => .ok (unescapeSettingValue (quoted.take e), quoted.drop (e + 1))
        | _ =>
          match plainValueEnd afterEq 0 with
          | none => .error "invalid backslash"
          | some e => .ok (unescapeSettingValue (afterEq.take e), afterEq.drop (e + 1))
      match step with
      | .error e => .error e
      | .ok (value, rest) =>
        if key.isEmpty then .error "invalid keyword/value"
        else if rest.length < cs.length then keywordSettings (acc ++ [(key, value)]) rest
        else .ok (acc ++ [(key, value)])
termination_by cs.length

/-! ### URLs -/

def queryPairs (query : String) : PgSettings :=
  (query.splitOn "&").filterMap fun pair =>
    if pair.isEmpty || pair.contains ';' then none
    else
      let (k, v) := match pair.splitOn "=" with
        | k :: v :: vs => (k, "=".intercalate (v :: vs))
        | _ => (pair, "")
      match Text.unescape true k, Text.unescape true v with
      | .ok k, .ok v => some (k, v)
      | _, _ => none

def firstValues (pairs : PgSettings) : PgSettings :=
  pairs.foldl (fun acc (k, v) => if (acc.lookup k).isSome then acc else acc ++ [(k, v)]) []

def urlSettings (s : String) : Except String PgSettings := do
  let u ← Text.readUrlForm s
  let mut out : PgSettings := []
  match u.user with
  | some (name, pw) =>
    out := out ++ [("user", Text.stringOfUtf8 name)]
    match pw with
    | some p => out := out ++ [("password", Text.stringOfUtf8 p)]
    | none => pure ()
  | none => pure ()
  let mut hosts : List String := []
  let mut ports : List String := []
  for h in ((Text.stringOfUtf8 u.host).splitOn ",").filter (!·.isEmpty) do
    let bracket (c : Char) : Bool := c = '[' || c = ']'
    let bare := String.ofList ((h.toList.dropWhile bracket).reverse.dropWhile bracket).reverse
    if isIPLiteral bare || !h.contains ':' then hosts := hosts ++ [bare]
    else
      match splitHostPort h with
      | .error e => throw ("failed to split host:port in '" ++ h ++ "', err: " ++ e)
      | .ok (host, port) =>
        if !host.isEmpty then hosts := hosts ++ [host]
        if !port.isEmpty then ports := ports ++ [port]
  if !hosts.isEmpty then out := out ++ [("host", ",".intercalate hosts)]
  if !ports.isEmpty then out := out ++ [("port", ",".intercalate ports)]
  let database := String.ofList ((Text.stringOfUtf8 u.path).toList.dropWhile (· = '/'))
  if !database.isEmpty then out := out ++ [("database", database)]
  for (k, v) in firstValues (queryPairs (u.query.getD "")) do
    out := out ++ [(settingName k, v)]
  return out

/-! ### Messages -/

def isUrlString (s : String) : Bool := s.startsWith "postgres://" || s.startsWith "postgresql://"

def hideQuotedPasswords : List Char → List Char
  | [] => []
  | c :: rest =>
    let key := "password='".toList
    if (c :: rest).take key.length == key then
      let after := (c :: rest).drop key.length
      match after.findIdx? (· = '\'') with
      | some e => "password=xxxxx".toList ++ hideQuotedPasswords (after.drop (e + 1))
      | none => c :: hideQuotedPasswords rest
    else c :: hideQuotedPasswords rest
termination_by cs => cs.length
decreasing_by all_goals simp only [List.length_drop, List.length_cons]; omega

/-- Replaces each `password=…` up to the next blank with a hidden password;
`dropping` while the characters of a password are being dropped. -/
def hidePlainPasswords (dropping : Bool) : List Char → List Char
  | [] => []
  | c :: rest =>
    if dropping then
      if c = ' ' then c :: hidePlainPasswords false rest else hidePlainPasswords true rest
    else if (c :: rest).take 9 == "password=".toList then
      "password=xxxxx".toList ++ hidePlainPasswords true ((c :: rest).drop 9)
    else c :: hidePlainPasswords false rest
termination_by cs => cs.length
decreasing_by all_goals simp only [List.length_drop, List.length_cons]; omega

def hideUserPasswords : List Char → List Char
  | [] => []
  | c :: rest =>
    if c = ':' then
      let run := rest.takeWhile fun d => d ≠ ':' && d ≠ '@'
      if !run.isEmpty && rest.getD run.length ' ' = '@' then
        ":xxxxxx@".toList ++ hideUserPasswords (rest.drop (run.length + 1))
      else c :: hideUserPasswords rest
    else c :: hideUserPasswords rest
termination_by cs => cs.length
decreasing_by all_goals simp only [List.length_drop, List.length_cons]; omega

/-- A connection string with its password hidden: a URL that reads is written
back with the password replaced, any other string has each `password=` value
and each `:…@` replaced. -/
def hidePassword (s : String) : String :=
  let asUrl : Option String :=
    if !isUrlString s then none
    else match Text.readUrlForm s with
      | .error _ => none
      | .ok u =>
        let hidden : Option (List UInt8 × Option (List UInt8)) := u.user.map fun (name, pw) =>
          (name, Option.map (fun _ => Text.utf8Bytes "xxxxx") pw)
        some { u with user := hidden }.render
  match asUrl with
  | some t => t
  | none => String.ofList (hideUserPasswords (hidePlainPasswords false (hideQuotedPasswords s.toList)))

def parseFailure (s what : String) (why : Option String) : String :=
  "cannot parse `" ++ hidePassword s ++ "`: " ++ what ++ (match why with
    | some w => " (" ++ w ++ ")"
    | none => "")

def failWith {α : Type} (s what : String) (why : Option String) : Except String α :=
  .error (parseFailure s what why)

/-! ### Configuration -/

def environmentSettings : List (String × String) :=
  [("PGHOST", "host"), ("PGPORT", "port"), ("PGDATABASE", "database"), ("PGUSER", "user"),
   ("PGPASSWORD", "password"), ("PGPASSFILE", "passfile"), ("PGAPPNAME", "application_name"),
   ("PGCONNECT_TIMEOUT", "connect_timeout"), ("PGSSLMODE", "sslmode"), ("PGSSLKEY", "sslkey"),
   ("PGSSLCERT", "sslcert"), ("PGSSLSNI", "sslsni"), ("PGSSLROOTCERT", "sslrootcert"),
   ("PGSSLPASSWORD", "sslpassword"), ("PGSSLNEGOTIATION", "sslnegotiation"),
   ("PGTARGETSESSIONATTRS", "target_session_attrs"), ("PGSERVICE", "service"),
   ("PGSERVICEFILE", "servicefile"), ("PGTZ", "timezone"), ("PGOPTIONS", "options")]

def defaultSettings (h : Host) : PgSettings :=
  [("host", "/tmp"), ("port", "5432"), ("user", h.account),
   ("passfile", Text.joinPath [h.accountHome, ".pgpass"]),
   ("servicefile", Text.joinPath [h.accountHome, ".pg_service.conf"]),
   ("target_session_attrs", "any")]

/-- One attempt to reach a server: a host, a port, and whether over TLS. -/
structure PgAttempt where
  host : String
  port : Nat
  tls : Bool
deriving Inhabited

/-- A configuration to connect with: who, to which database, and the attempts in order. -/
structure PgConfig where
  user : String
  database : String
  attempts : List PgAttempt
deriving Inhabited

def readPort (s : String) : Except String Nat :=
  match Settings.readDecimalUnsigned 65535 s with
  | .error e => .error (e.message "strconv.ParseUint" s)
  | .ok n => if n < 1 then .error "outside range" else .ok n

def checkClientCertificate (h : Host) (cert key : String) : Except String Unit := do
  if cert.isEmpty != key.isEmpty then throw "both \"sslcert\" and \"sslkey\" are required"
  if cert.isEmpty then return
  let keyText ← (h.readFile key).mapError ("unable to read sslkey: " ++ ·)
  match pemBlocks keyText with
  | [] => throw "failed to decode sslkey"
  | keyBlock :: _ =>
    let certText ← (h.readFile cert).mapError ("unable to read cert: " ++ ·)
    if (pemBlocks certText).isEmpty then
      throw "unable to load cert: tls: failed to find any PEM data in certificate input"
    if keyBlock.kind = "CERTIFICATE" then
      throw "unable to load cert: tls: found a certificate rather than a key in the PEM for the private key"
    throw "unable to load cert: tls: failed to parse private key"

def tlsChoices (h : Host) (s : PgSettings) : Except String (List Bool) := do
  let rootCert := s.get "sslrootcert"
  let negotiation := s.get "sslnegotiation"
  let mut mode := s.get "sslmode"
  if mode.isEmpty then mode := "prefer"
  if negotiation = "direct" && mode = "prefer" then mode := "require"
  if !rootCert.isEmpty then
    if rootCert = "system" then mode := "verify-full"
    else
      let text ← (h.readFile rootCert).mapError ("unable to read CA file: " ++ ·)
      if !addsCertificates text then throw "unable to add CA to cert pool"
  match mode with
  | "disable" => return [false]
  | "allow" | "prefer" | "require" | "verify-ca" | "verify-full" => pure ()
  | _ => throw "sslmode is invalid"
  checkClientCertificate h (s.get "sslcert") (s.get "sslkey")
  return match mode with
    | "allow" => [false, true]
    | "prefer" => [true, false]
    | _ => [true]

def sessionAttributes : List String :=
  ["read-write", "read-only", "primary", "standby", "prefer-standby", "any"]

def queryModes : List String :=
  ["cache_statement", "cache_describe", "describe_exec", "exec", "simple_protocol"]

/-- Whether a host names a directory of Unix sockets: a path from the root, or
a drive letter with a colon and a slash or backslash. -/
def isSocketDirectory (host : String) : Bool :=
  match host.toList with
  | '/' :: _ => true
  | d :: ':' :: sep :: _ => (('a' ≤ d && d ≤ 'z') || ('A' ≤ d && d ≤ 'Z')) && (sep = '\\' || sep = '/')
  | _ => false

/-- The services of a service file, in order, each with its settings; a line
that is neither blank, a comment, a section header nor a setting within a
section makes the file unreadable. -/
def readServiceFile (text : String) : Option (List (String × PgSettings)) :=
  let lines := (text.splitOn "\n").map fun l =>
    if l.endsWith "\r" then String.ofList l.toList.dropLast else l
  let lines := if lines.getLast? = some "" then lines.dropLast else lines
  lines.foldlM (fun (services : List (String × PgSettings)) raw =>
    let line := Text.trimBlank raw
    if line.isEmpty || line.startsWith "#" then some services
    else if line.startsWith "[" && line.endsWith "]" && 2 ≤ line.length then
      some (services ++ [(String.ofList ((line.toList.drop 1).dropLast), [])])
    else match services.getLast?, line.splitOn "=" with
      | some (name, settings), k :: v :: more =>
        some (services.dropLast ++
          [(name, settings ++ [(settingName (Text.trimBlank k), Text.trimBlank ("=".intercalate (v :: more)))])])
      | _, _ => none) []

def serviceSettings (h : Host) (path name : String) : Except String PgSettings :=
  match (h.readFile path).toOption.bind readServiceFile with
  | none => .error ("failed to read service file: " ++ path)
  | some services =>
    match services.find? (·.1 = name) with
    | some (_, settings) => .ok settings
    | none => .error ("unable to find service: " ++ name)

def pgConfig (h : Host) (s : String) : Except String PgConfig := do
  let given ← if s.isEmpty then pure []
    else if isUrlString s then
      match urlSettings s with
      | .ok v => pure v
      | .error e => failWith s "failed to parse as URL" (some e)
    else match keywordSettings [] s.toList with
      | .ok v => pure v
      | .error e => failWith s "failed to parse as keyword/value" (some e)
  let fromEnvironment := environmentSettings.filterMap fun (var, key) =>
    let v := h.variable var
    if v.isEmpty then none else some (key, v)
  let settings : PgSettings := defaultSettings h ++ fromEnvironment ++ given
  let settings ← match settings.find? "service" with
    | some name =>
      match serviceSettings h (settings.get "servicefile") name with
      | .ok fromService => pure (defaultSettings h ++ fromEnvironment ++ fromService ++ given)
      | .error e => failWith s "failed to read service" (some e)
    | none => pure settings
  match settings.find? "connect_timeout" with
  | some t =>
    match Settings.readDecimalInteger t with
    | .error e => failWith s "invalid connect_timeout" (some (e.message "strconv.ParseInt" t))
    | .ok n => if n < 0 then failWith s "invalid connect_timeout" (some "negative timeout") else pure ()
  | none => pure ()
  let hosts := (settings.get "host").splitOn ","
  let ports := (settings.get "port").splitOn ","
  let mut attempts : List PgAttempt := []
  for (host, i) in hosts.zipIdx do
    let portText := ports.getD i (ports.headD "")
    let port ← match readPort portText with
      | .ok p => pure p
      | .error e => failWith s "invalid port" (some e)
    if isSocketDirectory host then attempts := attempts ++ [⟨host, port, false⟩]
    else
      match tlsChoices h settings with
      | .ok choices => attempts := attempts ++ choices.map fun t => ⟨host, port, t⟩
      | .error e => failWith s "failed to configure TLS" (some e)
  let attrs := settings.get "target_session_attrs"
  if !sessionAttributes.contains attrs then failWith s ("unknown target_session_attrs value: " ++ attrs) none
  for key in ["statement_cache_capacity", "description_cache_capacity"] do
    match settings.find? key with
    | some v =>
      match Settings.readDecimalInteger v with
      | .ok n => if n < -2147483648 || n > 2147483647 then
          failWith s ("cannot parse " ++ key) (some (Settings.NumberError.outOfRange.message "strconv.ParseInt" v))
      | .error e => failWith s ("cannot parse " ++ key) (some (e.message "strconv.ParseInt" v))
    | none => pure ()
  match settings.find? "default_query_exec_mode" with
  | some m => if !queryModes.contains m then failWith s ("invalid default_query_exec_mode '" ++ m ++ "'") none
  | none => pure ()
  pure { user := settings.get "user", database := settings.get "database", attempts }

/-- How the attempts to reach one server fail on a host without network: one
line per address its host resolves to, or why the host resolves to none. -/
def PgAttempt.failures (h : Host) (a : PgAttempt) : Except String (List String) :=
  if isSocketDirectory a.host then
    let address := Text.joinPath [a.host, ".s.PGSQL."] ++ toString a.port
    .ok [address ++ " (" ++ a.host ++ "): dial error: " ++ h.connectFailure "unix" address]
  else (h.resolve a.host).map fun ips => ips.map fun ip =>
    let address := joinHostPortText ip (toString a.port)
    address ++ " (" ++ a.host ++ "): dial error: " ++ h.connectFailure "tcp" address

/-- How connecting with a configuration fails on a host without network. The
servers whose hosts resolve are tried and each failure is a line; when none
resolves, the failures to resolve are the lines. Several lines go on lines of
their own after the lead, one alone after a blank. -/
def PgConfig.failure (h : Host) (c : PgConfig) : String :=
  let lead := "failed to connect to `user=" ++ c.user ++ " database=" ++ c.database ++ "`:"
  let outcomes := c.attempts.map (PgAttempt.failures h)
  let tried := outcomes.flatMap fun o => o.toOption.getD []
  let unresolved := outcomes.filterMap fun o => match o with
    | .error e => some e
    | .ok _ => none
  let details :=
    if tried.isEmpty then
      "hostname resolving error: " ++ (if unresolved.isEmpty then "ip addr wasn't found" else "\n".intercalate unresolved)
    else "\n".intercalate tried
  if details.contains '\n' then lead ++ "\n\t" ++ details.replace "\n" "\n\t" else lead ++ " " ++ details

def openPostgres (h : Host) (dsn : String) : Except String Unit := do
  let c ← (pgConfig h dsn).mapError ("ping database: " ++ ·)
  throw ("ping database: " ++ c.failure h)

end MediaTimeline.Connect
