import MediaTimeline.Settings.Option

/-! Flags on a command line and how the words of a command line are read. -/

namespace MediaTimeline.Cli

open Settings

/-- A flag: its name, its letter if it has one, its kind, its default as text and its help line. -/
structure FlagSpec where
  name : String
  letter : Option Char := none
  kind : SettingKind
  default : String
  usage : String
deriving Inhabited

abbrev Given := List (String × String)

def Given.value? (g : Given) (name : String) : Option String :=
  (g.reverse.lookup name)

/-- What reading the words yields: the flags given and the arguments. -/
structure Reading where
  given : Given := []
  arguments : List String := []
deriving Inhabited

/-- Why the words cannot be read, or that they ask for help. -/
inductive WordsProblem where
  | help
  | fault (message : String)
deriving DecidableEq, Inhabited

def FlagSpec.display (f : FlagSpec) : String :=
  match f.letter with
  | some c => "-" ++ String.singleton c ++ ", --" ++ f.name
  | none => "--" ++ f.name

def FlagSpec.takesNoValue (f : FlagSpec) : Bool := f.kind == .truth

def setFlag (f : FlagSpec) (value : String) (r : Reading) : Except WordsProblem Reading :=
  match f.kind.ofArgument value with
  | .ok _ => .ok { r with given := r.given ++ [(f.name, value)] }
  | .error e =>
    .error (.fault ("invalid argument " ++ Text.quote value ++ " for " ++ Text.quote f.display ++ " flag: " ++ e))

def leadByte (c : Char) : Nat := ((String.singleton c).toUTF8.toList.headD 0).toNat

/-- A letter as a message cites it. Letters are read a byte at a time, and the
byte is kept as the character of that number; the message then quotes the first
byte of that character's encoding, so a letter outside ASCII is cited as the
character 0xC3. -/
def quoteLetter (c : Char) : String :=
  Text.quoteRune (Char.ofNat (leadByte (Char.ofNat (leadByte c))))

def testRunLetters : List Char := "test.".toList

/-- Reads a group of letters such as `-hv`; `rest` are the words after it. The
rest of a group that goes on with `test.` is skipped. -/
def readLetters (flags : List FlagSpec) (group : String) :
    List Char → List String → Reading → Except WordsProblem (List String × Reading)
  | [], rest, r => .ok (rest, r)
  | c :: cs, rest, r =>
    if testRunLetters.isPrefixOf (c :: cs) then .ok (rest, r) else
    match flags.find? (·.letter == some c) with
    | none =>
      if c = 'h' then .error .help
      else .error (.fault ("unknown shorthand flag: " ++ quoteLetter c ++ " in -" ++ String.ofList (c :: cs)))
    | some f =>
      match cs with
      | '=' :: v :: vs => do let r ← setFlag f (String.ofList (v :: vs)) r; pure (rest, r)
      | _ =>
        if f.takesNoValue then do readLetters flags group cs rest (← setFlag f "true" r)
        else if !cs.isEmpty then do let r ← setFlag f (String.ofList cs) r; pure (rest, r)
        else match rest with
          | v :: rest => do let r ← setFlag f v r; pure (rest, r)
          | [] => .error (.fault ("flag needs an argument: " ++ quoteLetter c ++ " in -" ++ String.ofList [c]))

def readLong (flags : List FlagSpec) (word : String) (rest : List String) (r : Reading) :
    Except WordsProblem (List String × Reading) :=
  let body := String.ofList (word.toList.drop 2)
  if body.isEmpty || body.startsWith "-" || body.startsWith "=" then
    .error (.fault ("bad flag syntax: " ++ word))
  else
    let (name, value?) := match body.splitOn "=" with
      | n :: v :: vs => (n, some ("=".intercalate (v :: vs)))
      | _ => (body, none)
    match flags.find? (·.name == name) with
    | none => if name = "help" then .error .help else .error (.fault ("unknown flag: --" ++ name))
    | some f =>
      match value? with
      | some v => do let r ← setFlag f v r; pure (rest, r)
      | none =>
        if f.takesNoValue then do let r ← setFlag f "true" r; pure (rest, r)
        else match rest with
          | v :: rest => do let r ← setFlag f v r; pure (rest, r)
          | [] => .error (.fault ("flag needs an argument: " ++ word))

def readWords (flags : List FlagSpec) : List String → Reading → Except WordsProblem Reading
  | [], r => .ok r
  | w :: rest, r =>
    if w = "--" then .ok { r with arguments := r.arguments ++ rest }
    else if w.length < 2 || !w.startsWith "-" then readWords flags rest { r with arguments := r.arguments ++ [w] }
    else
      let step := if w.startsWith "--" then readLong flags w rest r
        else readLetters flags w (w.toList.drop 1) rest r
      match step with
      | .error e => .error e
      | .ok (rest', r') =>
        if rest'.length ≤ rest.length then readWords flags rest' r' else .ok r'
termination_by ws => ws.length

end MediaTimeline.Cli
