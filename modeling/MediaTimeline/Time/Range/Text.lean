import MediaTimeline.Time.Range
import MediaTimeline.Text.Blank

/-! The bracket text of time ranges. -/

namespace MediaTimeline

namespace TimeRange

def toText (r : TimeRange) : String :=
  if r.isEmpty then "()"
  else if r.isEternity then "_"
  else if r.isInstant then
    match r.lower with
    | some a => "[" ++ a.stamp.toText ++ "]"
    | none => "_"
  else
    let startText := match r.lower with
      | some a => (if a.closed then "[" else "(") ++ a.stamp.toText
      | none => ""
    let stopText := match r.upper with
      | some b => b.stamp.toText ++ (if b.closed then "]" else ")")
      | none => ""
    startText ++ "_" ++ stopText

/-- Why a text is no range. Each case carries the text as it was given. -/
inductive ParseError where
  | empty
  | malformed (text : String)
  | badStamp (text : String) (e : Stamp.ParseError)
  | startAfterStop (text : String)
deriving DecidableEq

def ParseError.message : ParseError → String
  | .empty => "invalid timerange: empty string"
  | .malformed s => "invalid timerange: " ++ Text.quote s
  | .badStamp s e => "invalid timerange: " ++ Text.quote s ++ ": " ++ e.message
  | .startAfterStop s => "invalid timerange: start after end in " ++ Text.quote s

/-- Reads one optional instant of a range: nothing is an absent end. -/
def parseEnd (s : String) (cs : List Char) : Except ParseError (Option Stamp) :=
  if cs.isEmpty then .ok none
  else match Stamp.parse (String.ofList cs) with
    | .ok t => .ok (some t)
    | .error e => .error (.badStamp s e)

def parse (s : String) : Except ParseError TimeRange :=
  let body := Text.trimBlankList s.toList
  if body = ['(', ')'] then .ok never
  else if body = ['_'] then .ok eternity
  else if body.isEmpty then .error .empty
  else
    let (opener, body) := match body with
      | c :: rest => if c = '[' || c = '(' then (some c, rest) else (none, body)
      | [] => (none, [])
    let (closer, body) := match body.getLast? with
      | some c => if c = ']' || c = ')' then (some c, body.dropLast) else (none, body)
      | none => (none, body)
    match body.dropWhile (· != '_') with
    | [] =>
      if body.isEmpty then .error (.malformed s)
      else match Stamp.parse (String.ofList body) with
        | .error e => .error (.badStamp s e)
        | .ok t => .ok (ofStamps (some t) (some t) (opener != some '(') (closer != some ')'))
    | _ :: stopPart => do
      let start ← parseEnd s (body.takeWhile (· != '_'))
      let stop ← parseEnd s stopPart
      match start, stop with
      | some a, some b =>
        if b < a then throw (.startAfterStop s)
        else pure (ofStamps start stop (opener != some '(') (closer == some ']'))
      | _, _ => pure (ofStamps start stop (opener != some '(') (closer == some ']'))

end TimeRange

end MediaTimeline
