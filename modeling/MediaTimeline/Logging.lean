import MediaTimeline.Text.Quoted

/-! Log lines. -/

namespace MediaTimeline

/-- A log line: level, context fields and message. -/
structure LogLine where
  level : String
  fields : List (String × String)
  message : String
deriving Inhabited

/-- The pairs of a list of names and values in turn; an odd name at the end is dropped. -/
def fieldPairs : List String → List (String × String)
  | k :: v :: rest => (k, v) :: fieldPairs rest
  | _ => []

def logEscape (c : Char) : List Char :=
  if c = '"' then ['\\', '"']
  else if c = '\\' then ['\\', '\\']
  else if c = '\x08' then ['\\', 'b']
  else if c = '\x0c' then ['\\', 'f']
  else if c = '\n' then ['\\', 'n']
  else if c = '\r' then ['\\', 'r']
  else if c = '\t' then ['\\', 't']
  else if c.toNat < 0x20 then '\\' :: 'u' :: Text.hexPadded 4 c.toNat
  else [c]

def logQuote (s : String) : String := String.ofList ('"' :: s.toList.flatMap logEscape ++ ['"'])

def LogLine.render (l : LogLine) : String :=
  let fields := (("level", l.level) :: l.fields) ++ (if l.message.isEmpty then [] else [("message", l.message)])
  "\x7b" ++ ",".intercalate (fields.map fun (k, v) => logQuote k ++ ":" ++ logQuote v) ++ "\x7d"

end MediaTimeline
