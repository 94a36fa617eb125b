import MediaTimeline.Config.Value
import MediaTimeline.Settings.Number
import MediaTimeline.Text.Blank

/-! Reading configuration files written in YAML. -/

namespace MediaTimeline.Config

/-- A line of a document: its number, its indentation and its text without the comment. -/
structure Line where
  number : Nat
  indent : Nat
  text : List Char
deriving Inhabited

/-- Whether a quote at this point may open a quoted scalar: at the start of the
text, or after a blank, a bracket, a comma or a dash. -/
def opensScalar (prev : Option Char) : Bool :=
  match prev with
  | none => true
  | some p => p = ' ' || p = '[' || p = '{' || p = ',' || p = '-' || p = ':'

def dropComment (quote : Option Char) (prev : Option Char) : List Char → List Char
  | [] => []
  | c :: rest =>
    match quote with
    | some q =>
      if c = '\\' && q = '"' then
        match rest with
        | d :: r => c :: d :: dropComment quote (some d) r
        | [] => [c]
      else if c = q then c :: dropComment none (some c) rest
      else c :: dropComment quote (some c) rest
    | none =>
      if c = '#' && (prev.isNone || prev = some ' ' || prev = some '\t') then []
      else if (c = '"' || c = '\'') && opensScalar prev then c :: dropComment (some c) (some c) rest
      else c :: dropComment none (some c) rest

def documentLines (doc : String) : Except String (List Line) :=
  ((doc.splitOn "\n").zipIdx.filterMap fun (raw, i) =>
    let cs := raw.toList.filter (· ≠ '\r')
    let lead := cs.takeWhile (fun c => c = ' ' || c = '\t')
    let body := Text.trimBlankList (dropComment none none (cs.drop lead.length))
    if body.isEmpty || body = "---".toList || body = "...".toList then none
    else some (if lead.contains '\t' then Except.error ("line " ++ toString (i + 1) ++ ": found a tab character in indentation")
      else Except.ok ⟨i + 1, lead.length, body⟩)).mapM id

def isItem (cs : List Char) : Bool :=
  match cs with
  | ['-'] => true
  | '-' :: ' ' :: _ => true
  | _ => false

def splitKey (cs : List Char) : Option (String × List Char) :=
  match cs with
  | '"' :: rest =>
    let key := rest.takeWhile (· ≠ '"')
    match rest.drop (key.length + 1) with
    | ':' :: after => if after.isEmpty || after.head? = some ' ' then some (String.ofList key, after) else none
    | _ => none
  | '\'' :: rest =>
    let key := rest.takeWhile (· ≠ '\'')
    match rest.drop (key.length + 1) with
    | ':' :: after => if after.isEmpty || after.head? = some ' ' then some (String.ofList key, after) else none
    | _ => none
  | c :: _ =>
    if c = '[' || c = '{' || c = '-' && isItem cs then none
    else
      let rec find : List Char → List Char → Option (String × List Char)
        | [], _ => none
        | [':'], acc => some (String.ofList (Text.trimBlankList acc.reverse), [])
        | ':' :: ' ' :: rest, acc => some (String.ofList (Text.trimBlankList acc.reverse), ' ' :: rest)
        | d :: rest, acc => find rest (d :: acc)
      find cs []
  | [] => none

def isFraction (s : String) : Bool :=
  let cs := match s.toList with
    | '-' :: r | '+' :: r => r
    | r => r
  let (whole, rest) := (cs.takeWhile Char.isDigit, cs.dropWhile Char.isDigit)
  let (frac, rest) := match rest with
    | '.' :: r => (some (r.takeWhile Char.isDigit), r.dropWhile Char.isDigit)
    | r => (none, r)
  let expOk := match rest with
    | [] => true
    | e :: r =>
      (e = 'e' || e = 'E') &&
        (let ds := match r with
          | '-' :: d | '+' :: d => d
          | d => d
         !ds.isEmpty && ds.all Char.isDigit)
  (!whole.isEmpty || (frac.map (!·.isEmpty)).getD false) && expOk &&
    (frac.isSome || !rest.isEmpty)

def plainValue (s : String) : ConfigValue :=
  if ["", "~", "null", "Null", "NULL"].contains s then .null
  else if ["true", "True", "TRUE"].contains s then .truth true
  else if ["false", "False", "FALSE"].contains s then .truth false
  else match Settings.readInteger (String.ofList (s.toList.filter (· ≠ '_'))) with
    | .ok n => if s.isEmpty || !(s.front.isDigit || s.front = '-' || s.front = '+') then .text s else .integer n
    | .error _ =>
      if isFraction s || [".inf", ".Inf", ".INF", "+.inf", "-.inf", ".nan", ".NaN", ".NAN"].contains s then .fraction s
      else .text s

def escaped (c : Char) : Option Char :=
  match c with
  | 'n' => some '\n' | 't' => some '\t' | 'r' => some '\r' | '0' => some (Char.ofNat 0)
  | '"' => some '"' | '\\' => some '\\' | '/' => some '/' | ' ' => some ' '
  | _ => none

def doubleQuoted : List Char → List Char → Except String (String × List Char)
  | [], _ => .error "found an unterminated quoted scalar"
  | '"' :: rest, acc => .ok (String.ofList acc.reverse, rest)
  | '\\' :: c :: rest, acc => match escaped c with
    | some e => doubleQuoted rest (e :: acc)
    | none => .error "found an unknown escape character"
  | c :: rest, acc => doubleQuoted rest (c :: acc)

def singleQuoted : List Char → List Char → Except String (String × List Char)
  | [], _ => .error "found an unterminated quoted scalar"
  | '\'' :: '\'' :: rest, acc => singleQuoted rest ('\'' :: acc)
  | '\'' :: rest, acc => .ok (String.ofList acc.reverse, rest)
  | c :: rest, acc => singleQuoted rest (c :: acc)

def skipBlanks (cs : List Char) : List Char := cs.dropWhile (· = ' ')

def flowValue : Nat → List Char → Except String (ConfigValue × List Char)
  | 0, _ => .error "flow collection nested too deeply"
  | fuel + 1, cs =>
    match skipBlanks cs with
    | '"' :: rest => do let (s, r) ← doubleQuoted rest []; pure (.text s, r)
    | '\'' :: rest => do let (s, r) ← singleQuoted rest []; pure (.text s, r)
    | '[' :: rest =>
      let rec items : Nat → List Char → List ConfigValue → Except String (ConfigValue × List Char)
        | 0, _, _ => .error "flow sequence too long"
        | n + 1, cs, acc =>
          match skipBlanks cs with
          | ']' :: r => .ok (.list acc.reverse, r)
          | cs => do
            let (v, r) ← flowValue fuel cs
            match skipBlanks r with
            | ',' :: r => items n r (v :: acc)
            | ']' :: r => .ok (.list (v :: acc).reverse, r)
            | _ => .error "did not find expected ',' or ']'"
      items cs.length rest []
    | '{' :: rest =>
      let rec entries : Nat → List Char → List (String × ConfigValue) → Except String (ConfigValue × List Char)
        | 0, _, _ => .error "flow mapping too long"
        | n + 1, cs, acc =>
          match skipBlanks cs with
          | '}' :: r => .ok (.table acc.reverse, r)
          | cs => do
            let (k, r) ← flowValue fuel cs
            let key := match k with
              | .text s => s
              | v => v.printed
            let (v, r) ← match skipBlanks r with
              | ':' :: r => flowValue fuel r
              | r => pure (ConfigValue.null, r)
            match skipBlanks r with
            | ',' :: r => entries n r ((key, v) :: acc)
            | '}' :: r => .ok (.table ((key, v) :: acc).reverse, r)
            | _ => .error "did not find expected ',' or '\x7d'"
      entries cs.length rest []
    | cs =>
      let rec plain : List Char → List Char → List Char × List Char
        | [], acc => (acc.reverse, [])
        | c :: r, acc =>
          if c = ',' || c = ']' || c = '}' || (c = ':' && (r.head? = some ' ' || r.isEmpty)) then (acc.reverse, c :: r)
          else plain r (c :: acc)
      let (p, r) := plain cs []
      .ok (plainValue (String.ofList (Text.trimBlankList p)), r)

def inlineValue (cs : List Char) : Except String ConfigValue := do
  let cs := skipBlanks cs
  match cs with
  | '"' :: _ | '\'' :: _ | '[' :: _ | '{' :: _ =>
    let (v, rest) ← flowValue (cs.length + 1) cs
    if (skipBlanks rest).isEmpty then pure v else throw "did not find expected key"
  | c :: _ =>
    if ['&', '*', '!', '|', '>', '%', '@', '`'].contains c then throw ("unsupported character " ++ String.ofList [c])
    else if (splitKey cs).isSome then throw "mapping values are not allowed in this context"
    else pure (plainValue (String.ofList cs))
  | [] => pure .null

mutual
/-- Reads the block value that starts at the head of `lines`, if it is indented
at least `least`; answers the value and the lines after it. -/
def block : Nat → Nat → List Line → Except String (ConfigValue × List Line)
  | 0, _, _ => .error "document nested too deeply"
  | fuel + 1, least, lines =>
    match lines with
    | [] => .ok (.null, [])
    | l :: rest =>
      if l.indent < least then .ok (.null, lines)
      else if isItem l.text then sequence fuel l.indent lines []
      else if (splitKey l.text).isSome then mapping fuel l.indent lines []
      else do
        let v ← inlineValue l.text
        pure (v, rest)

def sequence : Nat → Nat → List Line → List ConfigValue → Except String (ConfigValue × List Line)
  | 0, _, _, _ => .error "document nested too deeply"
  | fuel + 1, col, lines, acc =>
    match lines with
    | l :: rest =>
      if l.indent = col && isItem l.text then do
        let after := l.text.drop 1
        let content := skipBlanks after
        let (v, rest) ← if content.isEmpty then block fuel (col + 1) rest
          else
            let inner : Line := ⟨l.number, col + 1 + (after.length - content.length), content⟩
            if isItem content || (splitKey content).isSome then block fuel inner.indent (inner :: rest)
            else do pure (← inlineValue content, rest)
        sequence fuel col rest (v :: acc)
      else if col < l.indent then .error ("line " ++ toString l.number ++ ": did not find expected '-' indicator")
      else .ok (.list acc.reverse, lines)
    | [] => .ok (.list acc.reverse, [])

def mapping : Nat → Nat → List Line → List (String × ConfigValue) → Except String (ConfigValue × List Line)
  | 0, _, _, _ => .error "document nested too deeply"
  | fuel + 1, col, lines, acc =>
    match lines with
    | l :: rest =>
      if l.indent = col && !isItem l.text then
        match splitKey l.text with
        | none => .error ("line " ++ toString l.number ++ ": could not find expected ':'")
        | some (key, after) => do
          if (acc.lookup key).isSome then
            throw ("line " ++ toString l.number ++ ": mapping key " ++ Text.quote key ++ " already defined")
          let (v, rest) ← if (skipBlanks after).isEmpty then
              match rest with
              | n :: _ =>
                if col < n.indent then block fuel n.indent rest
                else if n.indent = col && isItem n.text then sequence fuel col rest []
                else pure (ConfigValue.null, rest)
              | [] => pure (ConfigValue.null, rest)
            else do pure (← inlineValue after, rest)
          mapping fuel col rest ((key, v) :: acc)
      else if col < l.indent then .error ("line " ++ toString l.number ++ ": mapping values are not allowed in this context")
      else .ok (.table acc.reverse, lines)
    | [] => .ok (.table acc.reverse, [])
end

/-- Reads a configuration document: a table, with every name in lower case. An
empty document is an empty table. -/
def readYaml (doc : String) : Except String ConfigValue := do
  let lines ← documentLines doc
  let (v, rest) ← block (lines.length * 2 + 2) 0 lines
  if let l :: _ := rest then throw ("line " ++ toString l.number ++ ": did not find expected <document start>")
  match v with
  | .table _ => pure v.lowerNames
  | .null => pure (.table [])
  | v => throw ("cannot unmarshal " ++ v.kindName ++ " into a table")

end MediaTimeline.Config
