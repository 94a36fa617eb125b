import MediaTimeline.Host.Dial
import MediaTimeline.Host.Paths
import MediaTimeline.Text.Url
import MediaTimeline.Settings.Duration
import MediaTimeline.Settings.Number
import MediaTimeline.Connect.Certificate
import MediaTimeline.Time.Zones

/-! Connecting to a MySQL server. -/

namespace MediaTimeline.Connect

/-- A MySQL data source, read from its name. -/
structure MysqlSource where
  user : String := ""
  password : String := ""
  network : String := ""
  address : String := ""
  database : String := ""
  tls : String := ""
  collation : String := ""
  interpolate : Bool := false
  serverKey : String := ""
  params : List (String × String) := []
deriving Inhabited

def noSlash : String := "invalid DSN: missing the slash separating the database name"

def unclosedAddress : String := "invalid DSN: network address not terminated (missing closing brace)"

/-- The failure of an address whose bracket closes too early, as when a
parameter value holds an unescaped slash. -/
def unescapedValue : String := "invalid DSN: did you forget to escape a param value?"

def unsafeCollations : List String :=
  ["big5_chinese_ci", "sjis_japanese_ci", "gbk_chinese_ci", "big5_bin", "gb2312_bin", "gbk_bin", "sjis_bin",
   "cp932_japanese_ci", "cp932_bin", "gb18030_chinese_ci", "gb18030_bin", "gb18030_unicode_520_ci"]

def paramTruth (v : String) : Option Bool :=
  if ["1", "true", "TRUE", "True"].contains v then some true
  else if ["0", "false", "FALSE", "False"].contains v then some false
  else none

def truthParams : List String :=
  ["allowAllFiles", "allowCleartextPasswords", "allowFallbackToPlaintext", "allowNativePasswords",
   "allowOldPasswords", "checkConnLiveness", "clientFoundRows", "columnsWithAlias", "compress",
   "interpolateParams", "multiStatements", "parseTime", "rejectReadOnly"]

def takeParam (src : MysqlSource) (key value : String) : Except String MysqlSource := do
  if truthParams.contains key then
    match paramTruth value with
    | some b => pure (if key = "interpolateParams" then { src with interpolate := b } else src)
    | none => throw ("invalid bool value: " ++ value)
  else match key with
    | "charset" => pure src
    | "connectionAttributes" =>
      match Text.unescape true value with
      | .ok _ => pure src
      | .error e => throw ("invalid connectionAttributes value: " ++ e)
    | "collation" => pure { src with collation := value }
    | "loc" =>
      let zone ← Text.unescape true value
      match Zones.loadZone zone with
      | .ok () => pure src
      | .error e => throw e.message
    | "timeTruncate" =>
      match Settings.readDuration value with
      | .ok _ => pure src
      | .error e => throw ("invalid timeTruncate value: " ++ value ++ ", error: " ++ e.message)
    | "timeout" | "readTimeout" | "writeTimeout" =>
      match Settings.readDuration value with
      | .ok _ => pure src
      | .error e => throw e.message
    | "maxAllowedPacket" =>
      match Settings.readDecimalInteger value with
      | .ok _ => pure src
      | .error e => throw (e.message "strconv.Atoi" value)
    | "serverPubKey" =>
      match Text.unescape true value with
      | .ok name => pure { src with serverKey := name }
      | .error e => throw ("invalid value for server pub key name: " ++ e)
    | "tls" =>
      match paramTruth value with
      | some b => pure { src with tls := if b then "true" else "false" }
      | none =>
        let lower := value.toLower
        if lower = "skip-verify" || lower = "preferred" then pure { src with tls := lower }
        else match Text.unescape true value with
          | .ok name => pure { src with tls := name }
          | .error e => throw ("invalid value for TLS config name: " ++ e)
    | _ => pure { src with params := src.params ++ [(key, ← Text.unescape true value)] }

def takeParams (src : MysqlSource) (params : String) : Except String MysqlSource :=
  (params.splitOn "&").foldlM (fun src pair =>
    match pair.splitOn "=" with
    | key :: v :: vs => takeParam src key ("=".intercalate (v :: vs))
    | _ => pure src) src

def withDefaultPort (address : String) : String :=
  match splitHostPort address with
  | .ok _ => address
  | .error _ => joinHostPortText address "3306"

/-- Fills in the network and address a source leaves out, and checks its collation and TLS name. -/
def MysqlSource.normalize (src : MysqlSource) (registered : List String) : Except String MysqlSource := do
  if src.interpolate && !src.collation.isEmpty && unsafeCollations.contains src.collation then
    throw "invalid DSN: interpolateParams can not be used with unsafe collations"
  let network := if src.network.isEmpty then "tcp" else src.network
  let address ← if src.address.isEmpty then
      match network with
      | "tcp" => pure "127.0.0.1:3306"
      | "unix" => pure "/tmp/mysql.sock"
      | n => throw ("default addr for network '" ++ n ++ "' unknown")
    else pure (if network = "tcp" then withDefaultPort src.address else src.address)
  if !(["", "false", "true", "skip-verify", "preferred"].contains src.tls) && !registered.contains src.tls then
    throw ("invalid value / unknown config name: " ++ src.tls)
  if !src.serverKey.isEmpty then throw ("invalid value / unknown server pub key name: " ++ src.serverKey)
  pure { src with network, address }

def readMysqlSource (registered : List String) (dsn : String) : Except String MysqlSource := do
  let cs := dsn.toList
  match cs.reverse.findIdx? (· = '/') with
  | none => if cs.isEmpty then MysqlSource.normalize {} registered else throw noSlash
  | some fromEnd =>
    let i := cs.length - 1 - fromEnd
    let left := cs.take i
    let mut src : MysqlSource := {}
    if i > 0 then
      let at? := (left.reverse.findIdx? (· = '@')).map fun e => left.length - 1 - e
      let protoStart := match at? with
        | some j => j + 1
        | none => 0
      match at? with
      | some j =>
        let cred := left.take j
        match cred.findIdx? (· = ':') with
        | some k => src := { src with user := String.ofList (cred.take k), password := String.ofList (cred.drop (k + 1)) }
        | none => src := { src with user := String.ofList cred }
      | none => pure ()
      let proto := left.drop protoStart
      match proto.findIdx? (· = '(') with
      | some k =>
        if left.getLast? != some ')' then
          if (proto.drop (k + 1)).contains ')' then throw unescapedValue else throw unclosedAddress
        src := { src with network := String.ofList (proto.take k),
                          address := String.ofList ((proto.drop (k + 1)).dropLast) }
      | none => src := { src with network := String.ofList proto }
    let right := cs.drop (i + 1)
    let dbName := right.takeWhile (· ≠ '?')
    if right.length > dbName.length then
      src ← takeParams src (String.ofList (right.drop (dbName.length + 1)))
    match Text.unescape false (String.ofList dbName) with
    | .ok db => src := { src with database := db }
    | .error e => throw ("invalid dbname " ++ Text.quote (String.ofList dbName) ++ ": " ++ e)
    src.normalize registered

/-- How a source is secured: not at all, by TLS when the server offers it, by
TLS without checking the server, or by TLS checked against a CA file. -/
inductive TlsMode where
  | disabled
  | preferred
  | required
  | verifyCa
deriving DecidableEq, Inhabited

def TlsMode.ofText? : String → Option TlsMode
  | "" | "disabled" => some .disabled
  | "preferred" => some .preferred
  | "required" => some .required
  | "verify-ca" => some .verifyCa
  | _ => none

def customTlsName : String := "tams-custom"

def checkCaFile (h : Host) (caFile : String) : Except String Unit :=
  if caFile.isEmpty then .ok ()
  else match h.readFile caFile with
    | .error e => .error ("read CA file: " ++ e)
    | .ok text => if addsCertificates text then .ok () else .error "failed to append CA certificate"

/-- Opens a MySQL store on the host from a source name, a TLS mode and a CA
file; the failure is the whole message. -/
def openMysql (h : Host) (dsn mode caFile : String) : Except String Unit := do
  let src ← (readMysqlSource [] dsn).mapError ("parse DSN: " ++ ·)
  match TlsMode.ofText? mode with
  | none => throw ("unknown TLS mode: " ++ mode)
  | some .verifyCa => checkCaFile h caFile
  | some _ => pure ()
  throw ("ping database: " ++ h.connectFailure src.network src.address)

end MediaTimeline.Connect
