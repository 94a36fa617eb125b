import MediaTimeline.Cli.Commands
import MediaTimeline.Config.Yaml
import MediaTimeline.Config.Cast
import MediaTimeline.Host.Paths

/-! The settings of the command line, and where they are looked up. -/

namespace MediaTimeline.Cli

open Settings Config

def boundFlags (h : Host) : List FlagSpec := rootFlags ++ workerFlags h

def variableFor (name : String) : String :=
  ("TAMS_" ++ name).toUpper.map fun c => if c = '.' then '_' else c

def configExtensions : List String :=
  ["json", "toml", "yaml", "yml", "properties", "props", "prop", "hcl", "tfvars", "dotenv", "env", "ini"]

/-- A directory to search for the configuration file, made absolute: a
leading `$HOME` element is the home directory, then variables are expanded, and
the path is made absolute against the working directory and cleaned. -/
def searchDir (h : Host) (p : String) : String :=
  let p := if p = "$HOME" || p.startsWith "$HOME/" then h.variable "HOME" ++ String.ofList (p.toList.drop 5) else p
  let p := String.ofList (expandVariables h.variable p.toList)
  if p.startsWith "/" then Text.cleanPath p else Text.joinPath [h.workDir, p]

/-- The directories searched for the configuration file, made absolute. -/
def configDirs (h : Host) (configDir : String) : List String :=
  [h.resolvePath configDir, ".", "$HOME/.tams", "/usr/local/etc/tams/", "/etc/tams/"].map (searchDir h)

def configFile? (h : Host) (configDir name : String) : Option String :=
  ((configDirs h configDir).flatMap fun d => configExtensions.map fun e => Text.joinPath [d, name ++ "." ++ e]).find?
    fun p => (h.files.lookup p).isSome

def readConfigFile (path text : String) : Except String ConfigValue :=
  if path.endsWith ".yaml" || path.endsWith ".yml" then readYaml text
  else .error ("unsupported configuration format: " ++ path)

def loadConfig (h : Host) (configDir name : String) : Option ConfigValue := do
  let path ← configFile? h configDir name
  let text ← h.files.lookup path
  match readConfigFile path text with
  | .ok v => some v
  | .error _ => none

/-- Where settings are looked up. -/
structure SettingSources where
  host : Host
  given : Given := []
  file : Option ConfigValue := none

def flagSetting (f : FlagSpec) (text : String) : ConfigValue :=
  match f.kind with
  | .integer => .integer ((ConfigValue.text text).asInt)
  | .truth => .truth ((ConfigValue.text text).asBool)
  | _ => .text text

def SettingSources.get (s : SettingSources) (name : String) : ConfigValue :=
  let key := Text.lowerText name
  let flag := (boundFlags s.host).find? (·.name == key)
  let fromEnv := s.host.variable (variableFor key)
  match flag.bind fun f => (s.given.value? key).map (flagSetting f) with
  | some v => v
  | none =>
    if !fromEnv.isEmpty then .text fromEnv
    else match s.file.bind (·.atPath (key.splitOn ".")) with
      | some v => v
      | none => match flag with
        | some f => flagSetting f f.default
        | none => .null

def SettingSources.shown (s : SettingSources) (name : String) : String := (s.get name).printed

/-- The value of a setting as its flag reads it: given on the command line, or else looked up. -/
def SettingSources.flag (s : SettingSources) (given : Given) (f : FlagSpec) : SettingValue :=
  match given.value? f.name with
  | some t => match f.kind.ofArgument t with
    | .ok v => v
    | .error _ => f.kind.zero
  | none => (s.get f.name).asSetting f.kind

def SettingSources.text (s : SettingSources) (given : Given) (f : FlagSpec) : String :=
  match s.flag given f with
  | .text t => t
  | _ => ""

end MediaTimeline.Cli
