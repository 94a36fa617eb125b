import MediaTimeline.Host
import MediaTimeline.Text.Path

/-! Paths the user writes, made usable. -/

namespace MediaTimeline

def isSpecialVariable (c : Char) : Bool := "*#$@!?-".contains c || c.isDigit

def isVariableChar (c : Char) : Bool := c = '_' || c.isAlphanum

/-- The name of the variable after a `$`, and how many characters it takes.
An empty name that takes characters is malformed, and those characters are
dropped. -/
def variableName (cs : List Char) : String × Nat :=
  match cs with
  | '{' :: r =>
    match r with
    | c :: '}' :: _ => if isSpecialVariable c then (String.singleton c, 3) else braced r
    | _ => braced r
  | c :: _ =>
    if isSpecialVariable c then (String.singleton c, 1)
    else
      let n := cs.takeWhile isVariableChar
      (String.ofList n, n.length)
  | [] => ("", 0)
where
  braced (r : List Char) : String × Nat :=
    match r.idxOf? '}' with
    | some 0 => ("", 2)
    | some i => (String.ofList (r.take i), i + 2)
    | none => ("", 1)

def expandVariables (value : String → String) : List Char → List Char
  | '$' :: c :: r =>
    let (name, w) := variableName (c :: r)
    if name.isEmpty then
      if w = 0 then '$' :: expandVariables value (c :: r)
      else expandVariables value ((c :: r).drop w)
    else (value name).toList ++ expandVariables value ((c :: r).drop w)
  | c :: r => c :: expandVariables value r
  | [] => []
termination_by cs => cs.length
decreasing_by all_goals simp only [List.length_drop, List.length_cons]; omega

def Host.resolvePath (h : Host) (path : String) : String :=
  if !path.contains '~' then path
  else
    let p := if path = "~" then h.userHome
      else if path.startsWith "~/" then Text.joinPath [h.userHome, String.ofList (path.toList.drop 2)]
      else path
    let p := String.ofList (expandVariables h.variable p.toList)
    if p.startsWith "/" then Text.cleanPath p else Text.joinPath [h.workDir, p]

def Host.absolutePath (h : Host) (p : String) : String :=
  if p.startsWith "/" then Text.cleanPath p else Text.joinPath [h.workDir, p]

def Host.isDirectory (h : Host) (p : String) : Bool :=
  p = "/" || h.files.any fun (f, _) => f.startsWith (if p.endsWith "/" then p else p ++ "/")

/-- What a path leads to on the host. -/
inductive PathEnd where
  | file (text : String)
  | directory
deriving DecidableEq

/-- Why a path leads nowhere: a step names nothing, or a step goes on from a file. -/
inductive PathProblem where
  | missing
  | notDirectory
deriving DecidableEq

def PathProblem.text : PathProblem → String
  | .missing => "no such file or directory"
  | .notDirectory => "not a directory"

/-- Follows the steps of a path from the directory `here`, one at a time as
the system does: `..` goes up from where the walk stands, so it cannot undo a
step that failed, and any step after a file, even an empty one from a final
slash, fails. -/
def Host.walk (h : Host) (here : String) : List String → Except PathProblem PathEnd
  | [] => .ok .directory
  | c :: rest =>
    if c.isEmpty || c = "." then h.walk here rest
    else if c = ".." then h.walk (Text.joinPath [here, ".."]) rest
    else
      let p := Text.joinPath [here, c]
      match h.files.lookup p with
      | some t => if rest.isEmpty then .ok (.file t) else .error .notDirectory
      | none => if h.isDirectory p then h.walk p rest else .error .missing

def Host.readFile (h : Host) (path : String) : Except String String :=
  let start := if path.startsWith "/" then "/" else h.workDir
  match (if path.isEmpty then .error .missing else h.walk start (path.splitOn "/")) with
  | .ok (.file t) => .ok t
  | .ok .directory => .error ("read " ++ path ++ ": is a directory")
  | .error e => .error ("open " ++ path ++ ": " ++ e.text)

end MediaTimeline
